import LiveConfig.Session.World

/-! Steps that change or query files, file systems and detectors. Nobody is notified by them. -/

namespace LiveConfig.Session

namespace World

def modifyKeys (id : String) (f : Dict Stamp → Dict Stamp) (w : World) : World :=
  { w with fileSystems := w.fileSystems.modify id (·.map f) }

def keys (id : String) (w : World) : Dict Stamp :=
  ((w.fileSystems.find? id).bind fun keys => keys).getD []

def writeFile (p : FilePath) (text : Option String) (date : Option Int) (w : World) : World :=
  let old := w.files.get? p
  match text, old with
  | none, none => w
  | none, some f =>
    let written := (date.map Stamp.dated).getD f.written
    { w with files := w.files.write p ⟨f.text, written⟩ }
  | some t, _ =>
    let written := (date.map Stamp.dated).getD (.lately w.now)
    { w with files := w.files.write p ⟨t, written⟩ }

end World

def ResourceStep.run (step : ResourceStep) (w : World) : Answer × World :=
  match step with
  | write p text date => (.nothing, w.writeFile p text date)
  | delete p => (.bool (w.files.get? p).isSome, { w with files := w.files.remove p })
  | addFileSystem id inMemory =>
    (.nothing, { w with fileSystems := w.fileSystems.add id (if inMemory then some [] else none) })
  | setDate id key date => (.nothing, w.modifyKeys id (Dict.insert key (.dated date)))
  | touch id key => (.nothing, w.modifyKeys id (Dict.insert key (.lately w.now)))
  | remove id key =>
    (.bool (Dict.contains key (w.keys id)), w.modifyKeys id (Dict.erase key))
  | resolve id location =>
    match w.fileSystem? id with
    | some fs => (.place (fs.resolve location), w.tear (fs.isTorn location))
    | none => (.nothing, w)
  | look id p =>
    match w.fileSystem? id with
    | some fs => (.sight ⟨fs.present p, fs.written p⟩, w)
    | none => (.nothing, w)

def DetectorKind.make? (kind : DetectorKind) (w : World) : Option Detector :=
  match kind with
  | manual => some (.manual false)
  | scripted answers => some (.scripted answers 0 0)
  | standIn shown delay => some (.ofLocator (.standIn shown) delay w.now)
  | inside fs location delay =>
    (w.fileSystems.number? fs).map fun n => .ofLocator (.inside n location) delay w.now
  | file set delay => some (.ofLocator (.last set) delay w.now)

def DetectorKind.isTorn (s : Storage) : DetectorKind → Bool
  | file set _ => set.any (·.isTorn s)
  | _ => false

def Finding.ofLocator (s : Storage) (l : Locator) : Finding :=
  let location := match l with
    | .inside _ location => location
    | _ => none
  ⟨l.place? s, location, l.describe, l.display, l.sight s⟩

namespace World

def askDetector (id : String) (ask : Detector → Answer) (w : World) : Answer × World :=
  match w.detectors.find? id with
  | some d => (ask d, w)
  | none => (.nothing, w)

def changeDetector (id : String) (f : Detector → Detector) (w : World) : Answer × World :=
  (.nothing, { w with detectors := w.detectors.modify id f })

def look (id : String) (w : World) : World :=
  w.tear ((w.detectors.find? id).any (·.isTorn w.storage))

def checkDetector (id : String) (w : World) : Answer × World :=
  match w.detectors.number? id with
  | some n =>
    let (changed, w) := w.detect n
    (.bool changed, w)
  | none => (.nothing, w)

end World

def DetectorStep.run (step : DetectorStep) (w : World) : Answer × World :=
  match step with
  | add id kind =>
    match kind.make? w with
    | some d => (.nothing, { w.tear (kind.isTorn w.storage) with detectors := w.detectors.add id d })
    | none => (.nothing, w)
  | check id => w.checkDetector id
  | record id => (w.look id).changeDetector id (·.record w.moment)
  | refresh id => (w.look id).changeDetector id (·.refresh w.moment)
  | baseline id => w.askDetector id fun d => .stamp (d.watch?.bind (·.baseline))
  | delay id => w.askDetector id fun d =>
    match d.watch? with
    | some watch => .count (watch.delay / 1000000)
    | none => .nothing
  | raise id => w.changeDetector id Detector.raise
  | isRaised id => w.askDetector id fun d => .bool d.isRaised
  | counts id => w.askDetector id fun
    | .scripted _ checks recordings => .counts [checks, recordings]
    | _ => .nothing
  | addAnswers id more => w.changeDetector id (·.addAnswers more)
  | show_ id present written => w.changeDetector id (·.show_ fun s =>
    ⟨present.getD s.present, written.getD s.written⟩)
  | accesses id => w.askDetector id fun
    | .timed _ _ a => .counts [a.looks, a.readings]
    | _ => .nothing
  | resolve id => (w.look id).askDetector id fun d =>
    match d.locator? with
    | some (.file p _) => .hasFile p.isSome
    | some l => .finding (.ofLocator w.storage l)
    | none => .nothing

end LiveConfig.Session

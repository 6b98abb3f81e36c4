/-! What can go wrong when beans are declared, created and filled. -/

namespace LiveConfig

/-- Why a property refuses a value. A setter knows neither the bean's class nor the name under
which the property was asked for. -/
inductive PropertyError where
  | notWritable
  | conversion (expected value : String)
  deriving DecidableEq, Repr

def PropertyError.message : PropertyError → String
  | notWritable => "property is not writable"
  | conversion expected value => s!"expected {expected}, got '{value}'"

inductive BeanError where
  | invalidArgument (reason : String)
  | unknownFactory (name : String)
  | classNotSpecified
  | classNotFound (className : String)
  | noMatchingConstructor (className arguments : String)
  | ambiguousConstructor (className arguments : String)
  | propertyNotWritable (property className : String)
  | propertyConversion (property className expected value : String)
  | argumentConversion (className : String) (index : Nat) (expected value : String)
  | typeMismatch (className expected : String)
  | invalidDeclaration (reason : String)
  | factory (reason : String) (cause : Option String)
  | creation (className : String) (source : BeanError)
  deriving DecidableEq, Repr, Inhabited

namespace BeanError

def message : BeanError → String
  | invalidArgument reason => s!"invalid argument: {reason}"
  | unknownFactory name => s!"unknown bean factory '{name}'"
  | classNotSpecified => "no bean class specified"
  | classNotFound c => s!"bean class '{c}' is not registered"
  | noMatchingConstructor c args => s!"no matching constructor of '{c}' for arguments {args}"
  | ambiguousConstructor c args => s!"ambiguous constructor of '{c}' for arguments {args}"
  | propertyNotWritable property c => s!"property '{property}' of '{c}' is not writable"
  | propertyConversion property c expected value =>
    s!"cannot set property '{property}' of '{c}': expected {expected}, got '{value}'"
  | argumentConversion c index expected value =>
    s!"constructor argument {index} of '{c}': expected {expected}, got '{value}'"
  | typeMismatch c expected => s!"bean of class '{c}' is not a {expected}"
  | invalidDeclaration reason => s!"invalid bean declaration: {reason}"
  | factory reason _ => s!"bean factory failed: {reason}"
  | creation c _ => s!"failed to create bean of class '{c}'"

def code : BeanError → String
  | invalidArgument _ => "reconf::bean::invalid_argument"
  | unknownFactory _ => "reconf::bean::unknown_factory"
  | classNotSpecified => "reconf::bean::class_not_specified"
  | classNotFound _ => "reconf::bean::class_not_found"
  | noMatchingConstructor .. => "reconf::bean::no_matching_constructor"
  | ambiguousConstructor .. => "reconf::bean::ambiguous_constructor"
  | propertyNotWritable .. => "reconf::bean::property_not_writable"
  | propertyConversion .. => "reconf::bean::property_conversion"
  | argumentConversion .. => "reconf::bean::argument_conversion"
  | typeMismatch .. => "reconf::bean::type_mismatch"
  | invalidDeclaration _ => "reconf::bean::invalid_declaration"
  | factory .. => "reconf::bean::factory"
  | creation .. => "reconf::bean::creation"

def help : BeanError → Option String
  | unknownFactory _ =>
    some "Register the factory with BeanHelper::register_bean_factory before creating beans"
  | classNotSpecified =>
    some "Set a class name on the declaration (config-class) or pass a default class"
  | classNotFound _ => some "Register the class with BeanHelper::register_class"
  | ambiguousConstructor .. => some "Add a type hint (config-type) to the constructor arguments"
  | _ => none

def cause? : BeanError → Option String
  | factory _ cause => cause
  | creation _ source => some source.message
  | _ => none

def isCreation : BeanError → Bool
  | creation .. => true
  | _ => false

/-- Notes the class that was being created, once: the innermost note stays. -/
def inCreationOf (className : String) : BeanError → BeanError
  | creation c source => creation c source
  | e => creation className e

def rootCause : BeanError → BeanError
  | creation _ source => source.rootCause
  | e => e

theorem isCreation_inCreationOf (c : String) (e : BeanError) : (e.inCreationOf c).isCreation := by
  cases e <;> rfl

end BeanError
end LiveConfig

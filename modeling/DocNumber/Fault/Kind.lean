/-!
The kinds of refusal, and what each means to a caller: its name, its usual message, the status of
the answer that reports it.
-/

namespace DocNumber

inductive Kind
  | numbering
  | ruleValidation
  | emptyRuleName
  | emptyTemplate
  | invalidSequenceDigits
  | emptyDocumentTypeCodes
  | invalidEffectivePeriod
  | numberGeneration
  | requestValidation
  | noApplicableRule
  | sequenceExhausted
  | duplicateNumber
  | templateError
deriving DecidableEq, Repr

namespace Kind

def all : List Kind :=
  [.numbering, .ruleValidation, .emptyRuleName, .emptyTemplate, .invalidSequenceDigits,
    .emptyDocumentTypeCodes, .invalidEffectivePeriod, .numberGeneration, .requestValidation,
    .noApplicableRule, .sequenceExhausted, .duplicateNumber, .templateError]

def name : Kind → String
  | .numbering => "NumberingError"
  | .ruleValidation => "RuleValidationError"
  | .emptyRuleName => "EmptyRuleName"
  | .emptyTemplate => "EmptyTemplate"
  | .invalidSequenceDigits => "InvalidSequenceDigits"
  | .emptyDocumentTypeCodes => "EmptyDocumentTypeCodes"
  | .invalidEffectivePeriod => "InvalidEffectivePeriod"
  | .numberGeneration => "NumberGenerationError"
  | .requestValidation => "RequestValidationError"
  | .noApplicableRule => "NoApplicableRule"
  | .sequenceExhausted => "SequenceExhausted"
  | .duplicateNumber => "DuplicateNumber"
  | .templateError => "TemplateError"

def ofName? (s : String) : Option Kind :=
  all.find? fun k => k.name == s

/-- The message when none is given. -/
def usualMessage : Kind → String
  | .numbering => ""
  | .ruleValidation => "Invalid numbering rule"
  | .emptyRuleName => "Rule name must not be empty"
  | .emptyTemplate => "Template must not be empty"
  | .invalidSequenceDigits => "Sequence digits must be between 1 and 18"
  | .emptyDocumentTypeCodes => "At least one document type code is required"
  | .invalidEffectivePeriod => "effective_until must not be earlier than effective_from"
  | .numberGeneration => "Document number generation failed"
  | .requestValidation => "Document number generation failed"
  | .noApplicableRule => "No applicable rule found for the given criteria"
  | .sequenceExhausted => "Sequence numbers exhausted for the rule"
  | .duplicateNumber => "Generated document number already exists"
  | .templateError => "Template parsing error"

/-- An empty message gives way to the usual one. -/
def wording (k : Kind) (message : Option String) : String :=
  match message with
  | none => k.usualMessage
  | some m => if m.isEmpty then k.usualMessage else m

def concernsRule : Kind → Bool
  | .ruleValidation | .emptyRuleName | .emptyTemplate | .invalidSequenceDigits
  | .emptyDocumentTypeCodes | .invalidEffectivePeriod => true
  | _ => false

/-- The refusal of a value that a caller supplied. -/
def isValueError (k : Kind) : Bool :=
  k.concernsRule || k == .requestValidation

def status (k : Kind) : Nat :=
  if k.concernsRule then 422
  else match k with
    | .requestValidation | .templateError => 422
    | .noApplicableRule => 404
    | .sequenceExhausted | .duplicateNumber => 409
    | _ => 400

end Kind

end DocNumber

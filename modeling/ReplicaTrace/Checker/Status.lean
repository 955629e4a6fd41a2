/-!
# Exit codes of the model checker

The model checker tells by its exit code what it found.  `Status.ofCode` gives the codes a meaning;
only the code `0` is a success (`isSuccess_ofCode`).
-/

namespace ReplicaTrace

namespace Checker

/-- What an exit code means. -/
inductive Status where
  | success
  | assumptionViolation
  | deadlock
  | safetyViolation
  /-- A temporal property fails: the trace is not one of the protocol. -/
  | livenessViolation
  | assertionFailure
  | specParseError
  | configParseError
  | stateSpaceTooLarge
  | systemError
  | genericError
  | unknown (code : Int)
deriving DecidableEq, Repr

namespace Status

/-- The meaning of an exit code. -/
def ofCode (code : Int) : Status :=
  match code with
  | 0 => success
  | 10 => assumptionViolation
  | 11 => deadlock
  | 12 => safetyViolation
  | 13 => livenessViolation
  | 14 => assertionFailure
  | 150 => specParseError
  | 151 => configParseError
  | 152 => stateSpaceTooLarge
  | 153 => systemError
  | 255 => genericError
  | code => unknown code

/-- The trace was accepted. -/
def isSuccess : Status → Bool
  | success => true
  | _ => false

/-- The words of the meaning; a code without a meaning has its number in place of them. -/
def words : Status → List String ⊕ Int
  | success => .inl ["success"]
  | assumptionViolation => .inl ["assumption", "violation"]
  | deadlock => .inl ["deadlock"]
  | safetyViolation => .inl ["safety", "violation"]
  | livenessViolation => .inl ["liveness", "violation"]
  | assertionFailure => .inl ["assertion", "failure"]
  | specParseError => .inl ["spec", "parse", "error"]
  | configParseError => .inl ["config", "parse", "error"]
  | stateSpaceTooLarge => .inl ["state", "space", "too", "large"]
  | systemError => .inl ["system", "error"]
  | genericError => .inl ["generic", "error"]
  | unknown code => .inr code

/-- The meaning in messages. -/
def message (s : Status) : String :=
  match s.words with
  | .inl ws => " ".intercalate ws
  | .inr code => s!"unknown status {code}"

/-- The name of the meaning in reports, or the code of one without a meaning. -/
def label (s : Status) : String ⊕ Int :=
  match s.words with
  | .inl ws => .inl ("_".intercalate ws)
  | .inr code => .inr code

theorem isSuccess_ofCode {code : Int} : (ofCode code).isSuccess = true ↔ code = 0 := by
  unfold ofCode
  split <;> simp_all [isSuccess]

end Status

end Checker

end ReplicaTrace

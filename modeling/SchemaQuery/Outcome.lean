import SchemaQuery.Failure

/-!
# Outcomes

What becomes of a request, as it is reported: a value, or complaints.  A
complaint is a refusal reduced to its kind and its wording.
-/

namespace SchemaQuery

def RefusalKind.name : RefusalKind → String
  | .notFound => "not_found"
  | .invalidPath => "invalid_path"
  | .invalidValue => "invalid_value"
  | .decodeError => "decode_error"

/-- The kinds of refusals in the order in which they are listed. -/
def RefusalKind.all : List RefusalKind :=
  [.notFound, .invalidPath, .invalidValue, .decodeError]

def RefusalKind.ofName? (name : String) : Option RefusalKind :=
  all.find? fun kind => kind.name == name

@[simp]
theorem RefusalKind.ofName?_name (kind : RefusalKind) : ofName? kind.name = some kind := by
  cases kind <;> decide

structure Complaint where
  kind : RefusalKind
  message : String
deriving DecidableEq, Repr, Inhabited

def Refusal.complaint (refusal : Refusal) : Complaint where
  kind := refusal.kind
  message := refusal.message

structure Outcome (α : Type) where
  value : Option α := none
  complaints : List Complaint := []
deriving Repr

namespace Outcome

variable {α : Type}

def answered (value : α) : Outcome α where
  value := some value

def refused (refusal : Refusal) : Outcome α where
  complaints := [refusal.complaint]

def ofComplaints (complaints : List Complaint) : Except Fault (Outcome α) :=
  if complaints.isEmpty then .error .noComplaints else .ok { complaints }

def isFailed (outcome : Outcome α) : Bool :=
  !outcome.complaints.isEmpty

def complaint? (outcome : Outcome α) : Option Complaint :=
  outcome.complaints.head?

def unwrap (outcome : Outcome α) : Except (List Complaint) (Option α) :=
  if outcome.isFailed then .error outcome.complaints else .ok outcome.value

def wording (complaints : List Complaint) : String :=
  "; ".intercalate (complaints.map Complaint.message)

end Outcome

end SchemaQuery

import Fortune.Outcome.Error
import Fortune.Pack.Documents

/-! How commands end: what they print, and why they fail. -/
namespace Fortune.Command

inductive Failure where
  | pack (error : Pack.Error)
  | identifier (error : Identifier.Error)
  | position (error : Point.Error)
  | template (error : Template.Error)
  | outcome (error : Outcome.Error)
deriving Repr

def Failure.message : Failure → String
  | .pack error => error.message
  | .identifier error => error.message
  | .position error => error.message
  | .template error => error.message
  | .outcome error => error.message

/-- What a program printed on its two streams, and its exit code. -/
structure Report where
  code : Nat := 0
  output : String := ""
  errors : String := ""
deriving DecidableEq, Repr

/-- Lines as they are printed, each with a line feed behind it. -/
def printed (lines : List String) : String := String.join (lines.map (· ++ "\n"))

@[simp] theorem printed_nil : printed [] = "" := rfl

theorem printed_cons (line : String) (rest : List String) :
    printed (line :: rest) = line ++ "\n" ++ printed rest := String.join_cons

theorem printed_append (lines more : List String) :
    printed (lines ++ more) = printed lines ++ printed more := by
  rw [printed, List.map_append, String.join_append]
  rfl

namespace Report

def success (lines : List String) : Report := { output := printed lines }

/-- The end of a command that fails. What it printed before stays. -/
def failure (lines : List String) (why : Failure) : Report :=
  { code := 1, output := printed lines, errors := printed ["error: " ++ why.message] }

theorem failure_eq (lines : List String) (why : Failure) :
    failure lines why = ⟨1, printed lines, "error: " ++ why.message ++ "\n"⟩ := by
  rw [failure, printed_cons, printed_nil, String.append_empty]

end Report
end Fortune.Command

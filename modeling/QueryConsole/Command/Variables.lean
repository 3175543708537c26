import QueryConsole.Text.Identifier
import QueryConsole.Text.Basic

/-!
# Variables

References to variables in a text are replaced by their values. A reference is a dollar sign with a
name behind it, either an identifier or any text in braces. Values are not searched for further
references.
-/

namespace QueryConsole.Command

/-- Gives a variable its value. -/
abbrev Lookup := Text → Option Text

/-- Reads the reference behind a dollar sign: its name and the text after it. -/
def reference? (t : Text) : Option (Text × Text) :=
  match t with
  | '{' :: t =>
    let name := t.takeWhile (· != '}')
    match t.dropWhile (· != '}') with
    | [] => none
    | _ :: rest => if name.isEmpty then none else some (name, rest)
  | t =>
    let name := t.takeWhile Text.isIdentifierChar
    if name.isEmpty then none else some (name, t.dropWhile Text.isIdentifierChar)

theorem length_reference?_le {t name rest : Text} (h : reference? t = some (name, rest)) :
    rest.length ≤ t.length := by
  have hdrop (p : Char → Bool) (s : Text) : (s.dropWhile p).length ≤ s.length :=
    (List.dropWhile_suffix p).length_le
  unfold reference? at h
  split at h
  · next s =>
    have hle := hdrop (· != '}') s
    split at h
    · cases h
    · next c r hr =>
      dsimp only at h
      split at h
      · cases h
      · rw [← (Prod.mk.inj (Option.some.inj h)).2]
        simp only [hr, List.length_cons] at hle ⊢
        omega
  · dsimp only at h
    split at h
    · cases h
    · rw [← (Prod.mk.inj (Option.some.inj h)).2]
      exact hdrop _ _

/-- Replaces the references in a text by the values of their variables, or by nothing. A dollar
sign without a reference stands for itself. -/
def expand (lookup : Lookup) : Text → Text
  | [] => []
  | c :: t =>
    if c = '$' then
      match _h : reference? t with
      | some (name, rest) => (lookup name).getD [] ++ expand lookup rest
      | none => c :: expand lookup t
    else c :: expand lookup t
termination_by t => t.length
decreasing_by
  · exact Nat.lt_succ_of_le (length_reference?_le _h)
  · exact Nat.lt_succ_self _
  · exact Nat.lt_succ_self _

/-- The variables that a process is given, by name. -/
abbrev Environment := List (Text × Text)

/-- The value of an environment variable. No variable has an empty name or one with an equals sign
or a NUL in it. -/
def Environment.get? (env : Environment) (name : Text) : Option Text :=
  if name.isEmpty || name.any (fun c => c == '=' || c == '\x00') then none else env.lookup name

/-- A table of variables in front of an environment. -/
structure Variables where
  table : List (Text × Text) := []
  environment : Environment := []
deriving DecidableEq, Repr

namespace Variables

def set (v : Variables) (name value : Text) : Variables :=
  { v with table := (name, value) :: v.table }

/-- The value of a variable, from the table or else from the environment. -/
def get? (v : Variables) (name : Text) : Option Text :=
  (v.table.lookup name).or (v.environment.get? name)

end Variables

end QueryConsole.Command

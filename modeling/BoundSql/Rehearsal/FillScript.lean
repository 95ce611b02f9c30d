import BoundSql.Session.Fill

/-!
Fill handlers given by rules. The first rule that matches the phase and the field decides.
-/

namespace BoundSql.Rehearsal

/-- Matches a phase and the name of a field; what is not given matches everything. -/
structure FillPattern where
  phase : Option Phase
  field : Option String
deriving DecidableEq, Repr, Inhabited

def FillPattern.matches (pattern : FillPattern) (phase : Phase) (f : Field) : Bool :=
  pattern.phase.all (· = phase) && pattern.field.all (· = f.name)

inductive Supply where
  | nothing
  /-- A text that names the phase, the entity and the field. -/
  | description
  | value (v : Value)
deriving DecidableEq, Repr, Inhabited

def Supply.give (phase : Phase) (entity : String) (f : Field) : Supply → Option Value
  | .nothing => none
  | .description => some (.text (phase.name ++ ":" ++ entity ++ ":" ++ f.name))
  | .value v => some v

structure FillScript where
  rules : List (FillPattern × Supply)
  /-- Values that match one of these are replaced. -/
  replaced : List FillPattern
deriving Repr, Inhabited

def FillScript.handler {σ : Type} (script : FillScript) : FillHandler σ where
  value := fun phase entity f => pure <|
    (script.rules.find? fun rule => rule.1.matches phase f).bind fun rule =>
      rule.2.give phase entity f
  replaces := fun phase f => pure <| script.replaced.any fun pattern => pattern.matches phase f

end BoundSql.Rehearsal

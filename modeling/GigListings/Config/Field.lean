import GigListings.Transform.Args

namespace GigListings

/-! What to extract from a container. -/

mutual

structure FieldRule where
  /-- Relative to the container; the container itself if there is none. -/
  selector : Option String
  /-- What to read of the element: its text, its markup or one of its attributes. -/
  part : String
  required : Bool
  fallback : Option String
  transform : Option String
  transformParams : Option Params
  multiple : Bool
  followUp : Option FollowUp

structure FollowUp where
  /-- The field that holds the link; the declaring field itself if there is none. -/
  urlField : Option String
  fields : List (String × FieldRule)

end

abbrev FieldRules := Dict FieldRule

mutual

def FieldRule.beq : FieldRule → FieldRule → Bool
  | ⟨s, a, r, f, t, p, m, none⟩, ⟨s', a', r', f', t', p', m', none⟩ =>
      s == s' && a == a' && r == r' && f == f' && t == t' && p == p' && m == m'
  | ⟨s, a, r, f, t, p, m, some u⟩, ⟨s', a', r', f', t', p', m', some u'⟩ =>
      s == s' && a == a' && r == r' && f == f' && t == t' && p == p' && m == m' &&
        FollowUp.beq u u'
  | _, _ => false

def FollowUp.beq : FollowUp → FollowUp → Bool
  | ⟨url, fields⟩, ⟨url', fields'⟩ => url == url' && FieldRule.beqAll fields fields'

def FieldRule.beqAll : List (String × FieldRule) → List (String × FieldRule) → Bool
  | [], [] => true
  | (name, field) :: rest, (name', field') :: rest' =>
      name == name' && FieldRule.beq field field' && FieldRule.beqAll rest rest'
  | _, _ => false

end

instance : BEq FieldRule := ⟨FieldRule.beq⟩

instance : BEq FollowUp := ⟨FollowUp.beq⟩

def FieldRule.plain : FieldRule where
  selector := none
  part := "text"
  required := false
  fallback := none
  transform := none
  transformParams := none
  multiple := false
  followUp := none

instance : Inhabited FieldRule := ⟨FieldRule.plain⟩

inductive Part where
  | text
  | innerHtml
  | named (attr : String)
deriving DecidableEq

def Part.ofName (name : String) : Part :=
  if name = "text" then text
  else if name = "innerHTML" then innerHtml
  else named name

/-- The siblings that a field's parameters name. -/
def FieldRule.references (field : FieldRule) (isSibling : String → Bool) : List String :=
  (field.transformParams.getD []).filterMap fun (_, value) => value.string?.filter isSibling

end GigListings

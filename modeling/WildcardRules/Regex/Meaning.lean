import WildcardRules.Regex.Reading
import WildcardRules.Regex.Size
import WildcardRules.Unicode.PropertyName

/-!
What written expressions stand for. The meaning of a part depends on the flags that hold where it
stands, so these are handed on from each part to the next. Where only ASCII is in reach a class may
not be a negated one: it would hold single bytes of other characters.
-/

set_option autoImplicit false

namespace WildcardRules.Regex

def Literal.alone (f : Flags) (l : Literal) : Except Fault Char :=
  if !f.unicode && l.coded && 0x80 ≤ l.char.toNat then
    .error { cause := .splitCharacters, span := l.span }
  else .ok l.char

def Literal.inBrackets (f : Flags) (l : Literal) : Except Fault Char :=
  match l.alone f with
  | .error fault => .error fault
  | .ok c =>
      if !f.unicode && 0x80 ≤ c.toNat then .error { cause := .beyondAscii, span := l.span }
      else .ok c

def negating (f : Flags) (span : Span) (negated : Bool) (k : CharSet) : Except Fault CharSet :=
  if negated && !f.unicode then .error { cause := .splitCharacters, span }
  else .ok (Class.negatedIf negated k)

def propertyClass (name : Text) : Except Unicode.NameFault (CharSet × Bool) :=
  let first := name.takeWhile (· != ':')
  match splitAtUnequal name, name.splitOn ':', name.splitOn '=' with
  | some (property, value), _, _ => (Unicode.setWith property value).map (·, true)
  | none, _ :: _ :: _, _ =>
      (Unicode.setWith first (name.drop (first.length + 1))).map (·, false)
  | none, _, property :: _ :: _ =>
      (Unicode.setWith property (name.drop (property.length + 1))).map (·, false)
  | _, _, _ => (Unicode.setNamed name).map (·, false)
where
  splitAtUnequal : Text → Option (Text × Text)
    | '!' :: '=' :: t => some ([], t)
    | c :: t => (splitAtUnequal t).map fun parts => (c :: parts.1, parts.2)
    | [] => none

def causeOf : Unicode.NameFault → Cause
  | .property => .propertyUnknown
  | .value => .propertyValueUnknown

def ClassName.class (f : Flags) (span : Span) (negated : Bool) :
    ClassName → Except Fault CharSet
  | letter c => negating f span negated (Class.ofLetter f c)
  | ascii k => negating f span negated (Class.folded f k)
  | property name =>
      if f.unicode then
        match propertyClass name with
        | .ok (k, others) => .ok (Class.negatedIf (negated != others) (Class.folded f k))
        | .error fault => .error { cause := causeOf fault, span }
      else .error { cause := .beyondAscii, span }

mutual

def Members.class (f : Flags) : Members → Except Fault CharSet
  | .literal l => do return .single (← l.inBrackets f)
  | .range first last => do return .range (← first.inBrackets f).toNat (← last.inBrackets f).toNat
  | .named span negated name => name.class f span negated
  | .brackets span negated inner => do
      let k ← inner.class f
      negating f span negated (Class.folded f k)
  | .union _ parts => Members.unionClass f parts
  | .joined _ junction left right => do
      let k ← left.class f
      let l ← right.class f
      return junction.apply (Class.folded f k) (Class.folded f l)

def Members.unionClass (f : Flags) : List Members → Except Fault CharSet
  | [] => .ok .empty
  | m :: parts => do
      let k ← m.class f
      let l ← Members.unionClass f parts
      return k.union l

end

def Atom.regex (f : Flags) : Atom → Except Fault Regex
  | literal l => do
      let c ← l.alone f
      return .char (Class.folded f (.single c))
  | dot span =>
      if f.unicode then .ok (.char (Class.dot f)) else .error { cause := .splitCharacters, span }
  | named span negated name => do return .char (← name.class f span negated)
  | place _ p => .ok (.place (p f))

mutual

def Form.regex (f : Flags) : Form → Except Fault (Regex × Flags)
  | .atom a => do return (← a.regex f, f)
  | .brackets m => do return (.char (← m.class f), f)
  | .flags changes => .ok (.empty, f.change changes)
  | .times _ body least most => do
      let (r, f) ← body.regex f
      return (.times r least most, f)
  | .group _ told changes inner => do
      let (r, _) ← inner.regex (f.change changes)
      return (if told then .group r else r, f)
  | .sequence _ parts => Form.sequenceRegex f parts
  | .choice _ branches => Form.choiceRegex f branches

def Form.sequenceRegex (f : Flags) : List Form → Except Fault (Regex × Flags)
  | [] => .ok (.empty, f)
  | part :: parts => do
      let (r, f) ← part.regex f
      let (s, f) ← Form.sequenceRegex f parts
      return (.both r s, f)

-- The expression of several branches, and the flags that hold after them. Flags hold on from one
-- branch to the next.
def Form.choiceRegex (f : Flags) : List Form → Except Fault (Regex × Flags)
  | [] => .ok (.char .empty, f)
  | branch :: branches => do
      let (r, f) ← branch.regex f
      let (s, f) ← Form.choiceRegex f branches
      return (r.or s, f)

end

def ofText (t : Text) : Except Fault Regex := do
  let r ← Form.ofText t
  return (← r.regex {}).1

end WildcardRules.Regex

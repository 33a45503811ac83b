/-
  Which log lines are kept.

  A filter is a set of directives.  A directive sets the level for a target, for a span, for fields,
  or for everything:

      level        target=level        target[span{field=value}]=level

  A level is a name in any case or a number from 0 to 5; a target or a span alone means `trace`. Two
  directives for the same place are one: the later counts.

  1. **Reading.**  A directive is read character by character, and what it names is cut out of its
     text at places that are counted in bytes.  The places are those of the text without the blanks
     around it, but the text is cut with them.  So blanks in front shift what is cut out, and a cut
     may come to be inside a character: there the program breaks off, and no filter comes of the
     text at all (`Failure.breaksOff`).

  2. **Sets.**  More specific directives come first; a directive takes the place of one for the same
     target, span and fields (`Directive.add`).  Directives about spans or fields are kept apart
     from those that can be judged from a line's origin.

  3. **Texts.**  Directives stand between commas.  A filter from the environment has to be readable
     as a whole; of the configured text the directives that can be read are kept, and if none can,
     errors of everything.
-/
import TxRelay.Decimal.Literal
import TxRelay.Text.Alphanumeric
import TxRelay.Text.Blank
import TxRelay.Text.Symbol

namespace TxRelay

/-- How much is logged. -/
inductive Level where
  | off
  | error
  | warn
  | info
  | debug
  | trace
deriving DecidableEq, Repr

namespace Level

/-- The name of a level. -/
def name : Level → String
  | off => "off"
  | error => "error"
  | warn => "warn"
  | info => "info"
  | debug => "debug"
  | trace => "trace"

/-- The levels in the order of their numbers. -/
def all : List Level := [off, error, warn, info, debug, trace]

/-- The level that a text names. -/
def ofText? (s : String) : Option Level :=
  match Text.unsigned? s with
  | some n => all[n]?
  | none =>
    if s.isEmpty then some error
    else all.find? fun l => l.name.toList = s.toList.map Char.toLower

end Level

/-- A field of a log line, and the value that it must have. -/
structure LogField where
  name : String
  value : Option String
deriving DecidableEq, Repr

/-- A directive. -/
structure Directive where
  target : Option String := none
  span : Option String := none
  fields : List LogField := []
  level : Level := .trace
deriving DecidableEq, Repr

namespace LogField

/-- The whole number of 64 bits with a sign that a text spells. -/
def integer? (s : String) : Option Int :=
  match s.toList with
  | '-' :: ds =>
    let n := Text.decimal ds
    if ds ≠ [] ∧ ds.all Char.isDigit ∧ n ≤ 0x8000000000000000 then some (-(n : Int)) else none
  | _ => (Text.unsigned? s).map Int.ofNat

/-- The written form of a value: a number in its plain form, anything else as it is. -/
def normalValue (s : String) : String :=
  match integer? s with
  | some n => toString n
  | none => (Decimal.plain? s).getD s

/-- The field that a text names; what stands behind a second equals sign does not count. -/
def ofText (s : String) : LogField :=
  match s.toList.splitOn '=' with
  | name :: v :: _ => ⟨String.ofList name, some (normalValue (String.ofList v))⟩
  | _ => ⟨s, none⟩

/-- The written form. -/
def render (f : LogField) : String :=
  match f.value with
  | none => f.name
  | some v => f.name ++ "=" ++ v

end LogField

namespace Directive

/-! ## Reading -/

/-- What a reader of a directive is in the middle of, and where that began. -/
inductive Place where
  | start
  | name (since : Nat)
  | span (since : Nat)
  | field (since : Nat)
  | afterFields
  | afterSpan
  | level (since : Nat)
deriving DecidableEq, Repr

/-- A reader of a directive. -/
structure Reading where
  place : Place := .start
  directive : Directive := {}

/-- Why a text does not become a directive. -/
inductive Failure where
  | unreadable
  /-- The text would be cut inside a character, and the program breaks off. -/
  | breaksOff
deriving DecidableEq, Repr

/-- The characters with the places at which they begin, in bytes. -/
def places : (i : Nat) → List Char → List (Char × Nat)
  | _, [] => []
  | i, c :: cs => (c, i) :: places (i + c.utf8Size) cs

/-- The text before and behind a place, unless that is inside a character. -/
def cutAt : List Char → (place : Nat) → Except Failure (List Char × List Char)
  | cs, 0 => .ok ([], cs)
  | [], _ + 1 => .error .breaksOff
  | c :: cs, i + 1 =>
    if c.utf8Size ≤ i + 1 then
      (cutAt cs (i + 1 - c.utf8Size)).map fun (before, behind) => (c :: before, behind)
    else .error .breaksOff

/-- The text from a place on. -/
def sliceFrom (text : List Char) (since : Nat) : Except Failure String :=
  (cutAt text since).map fun (_, behind) => String.ofList behind

/-- The text from one place to another. -/
def slice (text : List Char) (since upTo : Nat) : Except Failure String :=
  (cutAt text upTo).bind fun (before, _) => sliceFrom before since

/-- May a target start with `c`? -/
def startsName (c : Char) : Bool :=
  c = '-' || c = ':' || c = '_' || Text.isAlphanumeric c

/-- Go on with character `c` at place `i`. -/
def advance (text : List Char) (r : Reading) (c : Char) (i : Nat) : Except Failure Reading :=
  let d := r.directive
  match r.place with
  | .start =>
    if c = '[' then .ok { r with place := .span (i + 1) }
    else if startsName c then .ok { r with place := .name i }
    else .error .unreadable
  | .name since =>
    if c = '=' then
      (slice text since i).map fun target => ⟨.level (i + 1), { d with target := some target }⟩
    else if c = '[' then
      (slice text since i).map fun target => ⟨.span (i + 1), { d with target := some target }⟩
    else .ok r
  | .span since =>
    if c = ']' then
      (slice text since i).map fun span => ⟨.afterSpan, { d with span := some span }⟩
    else if c = '\x7b' then
      (slice text since i).map fun span =>
        ⟨.field (i + 1), { d with span := if since = i then none else some span }⟩
    else .ok r
  | .field since =>
    if c = '\x7d' then
      (slice text since i).bind fun field =>
        if since = i then .error .unreadable
        else .ok ⟨.afterFields, { d with fields := d.fields ++ [.ofText field] }⟩
    else .ok r
  | .afterFields => if c = ']' then .ok { r with place := .afterSpan } else .error .unreadable
  | .afterSpan => if c = '=' then .ok { r with place := .level (i + 1) } else .error .unreadable
  | .level _ => .ok r

/-- The directive of a word that stands alone: a level for everything, or else a target. -/
def ofWord (d : Directive) (word : String) : Directive :=
  match Level.ofText? word with
  | some l => { d with level := l, target := none }
  | none => { d with level := .trace, target := some word }

/-- The directive with the level that stands behind its equals sign. -/
def atLevel (d : Directive) (word : String) : Except Failure Directive :=
  if word.isEmpty then .ok { d with level := .trace }
  else
    match Level.ofText? word with
    | some l => .ok { d with level := l }
    | none => .error .unreadable

/-- The directive at the end of the text. -/
def complete (text : List Char) (r : Reading) : Except Failure Directive :=
  match r.place with
  | .name since => (sliceFrom text since).map (ofWord r.directive)
  | .level since => (sliceFrom text since).bind (atLevel r.directive)
  | .afterSpan => .ok r.directive
  | _ => .error .unreadable

/-- The directive that a text spells.  The places are those of the text without the blanks around
    it, but the text is cut with them: blanks in front shift what is cut out, and a cut may come
    to be inside a character. -/
def ofText (s : String) : Except Failure Directive :=
  ((places 0 (Text.trim s).toList).foldlM (fun r p => advance s.toList r p.1 p.2) {}).bind
    (complete s.toList)

/-! ## Writing -/

/-- The span and the fields in brackets, if there are any. -/
def renderSpan (d : Directive) : String :=
  if d.span.isNone ∧ d.fields = [] then ""
  else
    let fields :=
      if d.fields = [] then ""
      else "\x7b" ++ ",".intercalate (d.fields.map LogField.render) ++ "\x7d"
    "[" ++ d.span.getD "" ++ fields ++ "]"

/-- The written form. -/
def render (d : Directive) : String :=
  let place := d.target.getD "" ++ renderSpan d
  if d.target.isNone ∧ (renderSpan d).isEmpty then d.level.name
  else place ++ "=" ++ d.level.name

/-! ## Sets of directives -/

/-- Are two directives for the same place? -/
def samePlace (a b : Directive) : Bool :=
  a.target = b.target && a.span = b.span && a.fields = b.fields

/-- How specific a directive is. -/
def weight (d : Directive) : Nat × Nat × Nat :=
  ((d.target.map fun t => t.utf8ByteSize + 1).getD 0, if d.span.isSome then 1 else 0,
    d.fields.length)

/-- Is `a` more specific than `b`? -/
def isBefore (a b : Directive) : Bool :=
  let (x, y, z) := a.weight
  let (u, v, w) := b.weight
  u < x || (x = u && (v < y || (y = v && w < z)))

/-- Put a directive among the others, the more specific first. -/
def insert (d : Directive) : List Directive → List Directive
  | [] => [d]
  | e :: es => if isBefore d e then d :: e :: es else e :: insert d es

/-- Add a directive in place of an older one for the same place. -/
def add (ds : List Directive) (d : Directive) : List Directive :=
  insert d (ds.filter fun e => !samePlace d e)

/-- Does the directive look at spans or fields? -/
def isDynamic (d : Directive) : Bool := d.span.isSome || d.fields ≠ []

/-- Can the directive be judged from a line's origin alone? -/
def isStatic (d : Directive) : Bool := d.span.isNone && d.fields.all (·.value.isNone)

end Directive

/-- A filter: directives that can be judged at once, and directives about spans and fields. -/
structure LogFilter where
  statics : List Directive
  dynamics : List Directive
deriving DecidableEq, Repr

namespace LogFilter

/-- The filter of some directives. -/
def ofDirectives (ds : List Directive) : LogFilter :=
  let dynamics := ds.filter Directive.isDynamic
  let statics := (ds.filter fun d => !d.isDynamic) ++ dynamics.filter Directive.isStatic
  ⟨statics.foldl Directive.add [], dynamics.foldl Directive.add []⟩

/-- The texts between commas; empty ones do not count. -/
def parts (s : String) : List String :=
  ((s.toList.splitOn ',').map String.ofList).filter fun p => !p.isEmpty

/-- The filter that a text spells, if every directive in it can be read. -/
def ofText (s : String) : Except Directive.Failure LogFilter :=
  ((parts s).mapM Directive.ofText).map ofDirectives

/-- The directives that can be read, unless the program breaks off. -/
def readable : List String → Option (List Directive)
  | [] => some []
  | p :: ps =>
    match Directive.ofText p with
    | .ok d => (readable ps).map (d :: ·)
    | .error .unreadable => readable ps
    | .error .breaksOff => none

/-- Errors of everything. -/
def errors : LogFilter := ofDirectives [{ level := .error }]

/-- The filter that a text spells, without the directives that cannot be read; errors are kept
    if none can. -/
def ofTextLossy (s : String) : Option LogFilter :=
  (readable (parts s)).map fun ds => if ds = [] then errors else ofDirectives ds

/-- The program's own target. -/
def ownTarget : String := "tx_relay"

/-- The filter of a run: the environment's, if it can be read, else the program's own target at
    the configured level.  Nothing if the program breaks off. -/
def ofEnvironment (rustLog : Option String) (logLevel : String) : Option LogFilter :=
  match rustLog.map ofText with
  | some (.ok f) => some f
  | some (.error .breaksOff) => none
  | _ => ofTextLossy (ownTarget ++ "=" ++ logLevel)

/-- The written form. -/
def render (f : LogFilter) : String :=
  ",".intercalate ((f.statics ++ f.dynamics).map Directive.render)

end LogFilter

end TxRelay

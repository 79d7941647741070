-- Regular patterns, matched by taking one character off at a time.

namespace SourceAtlas.Text

/-- A regular pattern over characters. -/
inductive Pattern where
  | never
  | empty
  | one (p : Char → Bool)
  | seq (a b : Pattern)
  | alt (a b : Pattern)
  | many (a : Pattern)

namespace Pattern

/-- The pattern matches the empty text. -/
def nullable : Pattern → Bool
  | never => false
  | empty => true
  | one _ => false
  | seq a b => a.nullable && b.nullable
  | alt a b => a.nullable || b.nullable
  | many _ => true

/-- One pattern and then the other, dropping what adds nothing. -/
def andThen : Pattern → Pattern → Pattern
  | never, _ => never
  | empty, b => b
  | a, b => seq a b

/-- Either pattern, dropping one that matches nothing. -/
def either : Pattern → Pattern → Pattern
  | never, b => b
  | a, never => a
  | a, b => alt a b

/-- What has to follow once `c` has been read. Dropping dead ends on the way keeps the
pattern from growing with the text. -/
def after (c : Char) : Pattern → Pattern
  | never => never
  | empty => never
  | one p => if p c then empty else never
  | seq a b =>
    if a.nullable then either (andThen (a.after c) b) (b.after c) else andThen (a.after c) b
  | alt a b => either (a.after c) (b.after c)
  | many a => andThen (a.after c) (many a)

theorem nullable_andThen (a b : Pattern) :
    (andThen a b).nullable = (a.nullable && b.nullable) := by
  cases a <;> simp [andThen, nullable]

theorem nullable_either (a b : Pattern) :
    (either a b).nullable = (a.nullable || b.nullable) := by
  cases a <;> cases b <;> simp [either, nullable]

/-- The pattern matches the whole text. -/
def matchesAll : Pattern → List Char → Bool
  | p, [] => p.nullable
  | p, c :: cs => (p.after c).matchesAll cs

def char (c : Char) : Pattern := one (· == c)

/-- The characters of a text, one after the other. -/
def word (s : String) : Pattern := s.toList.foldr (fun c p => seq (char c) p) empty

def anyOf : List Pattern → Pattern := List.foldr alt never

def inOrder : List Pattern → Pattern := List.foldr seq empty

/-- The pattern or nothing. -/
def maybe (p : Pattern) : Pattern := alt p empty

/-- One or more times. -/
def some (p : Pattern) : Pattern := seq p (many p)

/-- One of the characters of a text. -/
def oneOf (s : String) : Pattern := one (s.toList.contains ·)

def digit : Pattern := one Char.isDigit

/-- A fixed number of times. -/
def times (n : Nat) (p : Pattern) : Pattern := inOrder (List.replicate n p)

end Pattern

end SourceAtlas.Text

/-!
# Places in a text

A place is counted in bytes of the UTF-8 form: readers report how many bytes they had not read yet,
and `Position.after` turns the bytes read into a line and a column.

* `byteCount` : the size of a text in bytes;
* `Position` : a line, from 1, and the bytes read since its start.
-/

namespace TypeSketch.Text

/-- The size of a text in UTF-8 bytes. -/
def byteCount : List Char → Nat
  | [] => 0
  | c :: s => c.utf8Size + byteCount s

@[simp] theorem byteCount_nil : byteCount [] = 0 := rfl

@[simp] theorem byteCount_cons (c : Char) (s : List Char) :
    byteCount (c :: s) = c.utf8Size + byteCount s := rfl

/-- A line, counted from 1, and the number of bytes read on it. -/
structure Position where
  line : Nat
  column : Nat
deriving DecidableEq, Repr

namespace Position

/-- Where a text starts. -/
def start : Position := ⟨1, 0⟩

/-- The place after one more character. -/
def step (p : Position) (c : Char) : Position :=
  if c = '\n' then ⟨p.line + 1, 0⟩ else ⟨p.line, p.column + c.utf8Size⟩

/-- The place reached from `p` by reading `bytes` bytes, which may end inside a character. -/
def walk (p : Position) (bytes : Nat) : List Char → Position
  | [] => p
  | c :: s => if bytes < c.utf8Size then ⟨p.line, p.column + bytes⟩ else walk (p.step c) (bytes - c.utf8Size) s

/-- The place after the first `bytes` bytes of a text. -/
def after (bytes : Nat) (text : List Char) : Position := walk start bytes text

end Position

end TypeSketch.Text

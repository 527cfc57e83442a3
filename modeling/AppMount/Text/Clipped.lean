/-!
# Clipped text

Some messages name a class only up to a number of bytes of its UTF-8 form. A character that is cut
apart is shown as one replacement character.

* `clipped`: a text up to a number of bytes;
* `clipped_of_fits`: a text that fits is not changed.
-/

namespace AppMount.Text

/-- The character that stands for one that was cut apart. -/
def replacement : Char := '\uFFFD'

/-- The characters that fit into a number of bytes, and a replacement for one cut apart. -/
def clippedChars : Nat → List Char → List Char
  | _, [] => []
  | bytes, c :: rest =>
    if c.utf8Size ≤ bytes then c :: clippedChars (bytes - c.utf8Size) rest
    else if bytes = 0 then []
    else [replacement]

/-- **A text up to a number of bytes.** -/
def clipped (bytes : Nat) (s : String) : String :=
  String.ofList (clippedChars bytes s.toList)

/-- The number of bytes that characters take. -/
def bytesOf : List Char → Nat
  | [] => 0
  | c :: rest => c.utf8Size + bytesOf rest

theorem clippedChars_of_fits {bytes : Nat} {cs : List Char} (h : bytesOf cs ≤ bytes) :
    clippedChars bytes cs = cs := by
  induction cs generalizing bytes with
  | nil => rfl
  | cons c rest ih =>
    have h' : c.utf8Size + bytesOf rest ≤ bytes := h
    have hc : c.utf8Size ≤ bytes := by omega
    have hrest : bytesOf rest ≤ bytes - c.utf8Size := by omega
    simp only [clippedChars, hc, ih hrest, if_true]

/-- **A text that fits is not changed.** -/
theorem clipped_of_fits {bytes : Nat} {s : String} (h : bytesOf s.toList ≤ bytes) :
    clipped bytes s = s := by
  rw [clipped, clippedChars_of_fits h, String.ofList_toList]

end AppMount.Text

/-!
This module contains the splitting of a text into its lines.
-/

namespace Typescribe.Text

def isLineBreak (c : Char) : Bool :=
  let n := c.toNat
  (0x0A ≤ n && n ≤ 0x0D) || (0x1C ≤ n && n ≤ 0x1E) || n == 0x85 || n == 0x2028 || n == 0x2029

/--
The lines of a text without the line breaks that end them. A carriage return and the line feed
after it are one line break, and a line break at the very end starts no further line.
-/
def splitLines : List Char → List (List Char)
  | [] => []
  | '\r' :: '\n' :: rest => [] :: splitLines rest
  | c :: rest =>
    if isLineBreak c then
      [] :: splitLines rest
    else
      match splitLines rest with
      | [] => [[c]]
      | line :: lines => (c :: line) :: lines

theorem isLineBreak_of_mem_splitLines {cs line : List Char} (h : line ∈ splitLines cs) :
    ∀ c ∈ line, isLineBreak c = false := by
  fun_induction splitLines cs generalizing line with
  | case1 => simp at h
  | case2 rest ih =>
    rcases List.mem_cons.mp h with rfl | h
    · simp
    · exact ih h
  | case3 c rest _ _ ih =>
    rcases List.mem_cons.mp h with rfl | h
    · simp
    · exact ih h
  | case4 c rest _ hc hs ih =>
    simp_all
  | case5 c rest _ hc first others hs ih =>
    rcases List.mem_cons.mp h with rfl | h
    · have inside := ih (hs ▸ List.mem_cons_self)
      simpa [hc] using inside
    · exact ih (hs ▸ List.mem_cons_of_mem _ h)

/-- Line feeds only: a carriage return, with or without a line feed after it, becomes one. -/
def unifyNewlines : List Char → List Char
  | [] => []
  | '\r' :: '\n' :: rest => '\n' :: unifyNewlines rest
  | c :: rest => (if c = '\r' then '\n' else c) :: unifyNewlines rest

end Typescribe.Text

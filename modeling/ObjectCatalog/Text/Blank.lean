/-! # Blank characters

White space as it separates words and is trimmed from the ends of a text: the control
characters from tab to carriage return, the four information separators and every Unicode space.
-/
namespace ObjectCatalog.Text

def isBlank (c : Char) : Bool :=
  let code := c.toNat
  (0x09 ≤ code && code ≤ 0x0d) || (0x1c ≤ code && code ≤ 0x20) || code == 0x85 || code == 0xa0 ||
    code == 0x1680 || (0x2000 ≤ code && code ≤ 0x200a) || code == 0x2028 || code == 0x2029 ||
    code == 0x202f || code == 0x205f || code == 0x3000

def dropEndWhile (p : Char → Bool) (text : List Char) : List Char :=
  (text.reverse.dropWhile p).reverse

def trimStart (text : List Char) : List Char := text.dropWhile isBlank

def trimEnd (text : List Char) : List Char := dropEndWhile isBlank text

def trim (text : List Char) : List Char := trimEnd (trimStart text)

theorem dropEndWhile_append {p : Char → Bool} (text : List Char) :
    ∃ ending, text = dropEndWhile p text ++ ending ∧ ∀ c ∈ ending, p c = true := by
  refine ⟨(text.reverse.takeWhile p).reverse, ?_, ?_⟩
  · rw [dropEndWhile, ← List.reverse_append, List.takeWhile_append_dropWhile, List.reverse_reverse]
  · intro c hc
    exact List.all_eq_true.mp List.all_takeWhile c (List.mem_reverse.mp hc)

end ObjectCatalog.Text

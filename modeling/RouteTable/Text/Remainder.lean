/-!
# What is left of a text

A reader takes characters from the beginning of a text.  What it leaves is an end of
the text, and a shorter text if it has taken a character.
-/

namespace RouteTable.Text

/-- Whether `rest` is left of `cs` behind some character. -/
def Behind (rest cs : List Char) : Prop := ∃ c, c :: rest <:+ cs

variable {rest rest' cs cs' : List Char}

theorem behind_cons (c : Char) (h : rest <:+ cs) : Behind rest (c :: cs) := by
  obtain ⟨front, rfl⟩ := h
  rcases List.eq_nil_or_concat front with rfl | ⟨front, d, rfl⟩
  · exact ⟨c, List.suffix_refl _⟩
  · exact ⟨d, c :: front, by simp⟩

namespace Behind

theorem suffix (h : Behind rest cs) : rest <:+ cs := by
  obtain ⟨c, h⟩ := h
  exact (List.suffix_cons c rest).trans h

theorem length_lt (h : Behind rest cs) : rest.length < cs.length := by
  obtain ⟨c, h⟩ := h
  exact h.length_le

theorem trans_suffix (h : Behind rest cs) (hcs : cs <:+ cs') : Behind rest cs' := by
  obtain ⟨c, h⟩ := h
  exact ⟨c, h.trans hcs⟩

theorem of_suffix (h : Behind rest cs) (hrest : rest' <:+ rest) : Behind rest' cs := by
  obtain ⟨c, h⟩ := h
  exact (behind_cons c hrest).trans_suffix h

theorem suffix_of_cons {c : Char} (h : Behind rest (c :: cs)) : rest <:+ cs := by
  obtain ⟨d, hsuffix⟩ := h
  rcases List.suffix_cons_iff.1 hsuffix with heq | hsuffix
  · cases heq
    exact List.suffix_refl _
  · exact (List.suffix_cons d rest).trans hsuffix

end Behind

end RouteTable.Text

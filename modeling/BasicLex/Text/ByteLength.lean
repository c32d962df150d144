namespace BasicLex.Text

-- Bytes of the UTF-8 form. Every offset of the library counts these, while the
-- texts themselves stay lists of characters.
def byteLength (text : List Char) : Nat := text.foldr (fun c bytes => c.utf8Size + bytes) 0

@[simp] theorem byteLength_nil : byteLength [] = 0 := rfl

@[simp] theorem byteLength_cons (c : Char) (text : List Char) :
    byteLength (c :: text) = c.utf8Size + byteLength text := rfl

@[simp] theorem byteLength_append (left right : List Char) :
    byteLength (left ++ right) = byteLength left + byteLength right := by
  induction left with
  | nil => simp
  | cons c left ih => rw [List.cons_append,byteLength_cons,byteLength_cons,ih,Nat.add_assoc]

theorem byteLength_ofList (text : List Char) : (String.ofList text).utf8ByteSize = byteLength text := by
  induction text with
  | nil => rfl
  | cons c text ih => rw [String.ofList_cons,String.utf8ByteSize_append,byteLength_cons,ih]; simp

theorem byteLength_toList (text : String) : byteLength text.toList = text.utf8ByteSize := by
  rw [← byteLength_ofList,String.ofList_toList]

theorem byteLength_zero {text : List Char} : byteLength text = 0 ↔ text = [] := by
  cases text with
  | nil => simp
  | cons c text => have := c.utf8Size_pos; simp; omega

theorem append_later {first rest left right : List Char} (same : first ++ rest = left ++ right)
    (reaches : byteLength first ≤ byteLength left) : ∃ more, left = first ++ more ∧ rest = more ++ right := by
  cases List.append_eq_append_iff.mp same with
  | inl later => exact later
  | inr earlier =>
    obtain ⟨more,longer,behind⟩ := earlier
    rw [longer,byteLength_append] at reaches
    have nothing : more = [] := byteLength_zero.mp (by omega)
    subst nothing
    exact ⟨[],by simpa using longer.symm,by simpa using behind.symm⟩

end BasicLex.Text

import Mathlib.Data.List.TakeWhile
import Breakpoint.Proofs.Text.Spelling

/-!
# Blanks at the ends of a text

Trimming takes blanks off both ends until none is left there. Blanks that are added around a text
do not change what is left, and a code point that is no blank keeps what stands before it and
after it apart.
-/

namespace Breakpoint.Text

variable {text : Text}

/-- After the blanks at its start, a text has no blank at its start. -/
theorem endsBlankless_dropWhile (text : Text) : EndsBlankless (text.dropWhile isBlank).head? := by
  intro c hc
  have hhead := List.head?_dropWhile_not isBlank text
  rw [hc] at hhead
  exact hhead

/-- Without its last blanks, a text does not end with one. -/
theorem endsBlankless_dropTrailing (text : Text) :
    EndsBlankless (dropTrailing isBlank text).getLast? := by
  rw [dropTrailing, List.getLast?_reverse]
  exact endsBlankless_dropWhile _

/-- What is dropped from the end passes the test. -/
theorem exists_dropTrailing (test : CodePoint → Bool) (text : Text) :
    ∃ dropped, text = dropTrailing test text ++ dropped ∧ ∀ c ∈ dropped, test c = true := by
  refine ⟨(text.reverse.takeWhile test).reverse, ?_, ?_⟩
  · rw [dropTrailing, ← List.reverse_append, List.takeWhile_append_dropWhile, List.reverse_reverse]
  · intro c hc
    exact List.mem_takeWhile_imp (List.mem_reverse.1 hc)

/-- What is dropped from both ends passes the test. -/
theorem exists_dropTrailing_dropWhile (test : CodePoint → Bool) (text : Text) :
    ∃ before after, text = before ++ (dropTrailing test (text.dropWhile test) ++ after) ∧
      (∀ c ∈ before, test c = true) ∧ ∀ c ∈ after, test c = true := by
  obtain ⟨after, hsplit, hafter⟩ := exists_dropTrailing test (text.dropWhile test)
  refine ⟨text.takeWhile test, after, ?_, fun c hc => List.mem_takeWhile_imp hc, hafter⟩
  rw [← hsplit, List.takeWhile_append_dropWhile]

/-- Blanks at the end of a text make no difference to what is left of it. -/
theorem dropTrailing_append_blanks {blanks : Text} (hblanks : ∀ c ∈ blanks, isBlank c = true)
    (text : Text) : dropTrailing isBlank (text ++ blanks) = dropTrailing isBlank text := by
  rw [dropTrailing, List.reverse_append,
    List.dropWhile_append_of_pos (fun c hc => hblanks c (List.mem_reverse.1 hc)), dropTrailing]

/-- Nothing is dropped before a code point that is no blank. -/
theorem dropTrailing_append_cons {c : CodePoint} (hc : isBlank c = false) (first rest : Text) :
    dropTrailing isBlank (first ++ c :: rest) = first ++ c :: dropTrailing isBlank rest := by
  have hblank : ¬ isBlank c = true := by simp [hc]
  rw [dropTrailing, List.reverse_append, List.reverse_cons, List.append_assoc,
    List.singleton_append, List.dropWhile_append, dropTrailing]
  split
  · next hempty =>
    rw [List.isEmpty_iff.1 hempty, List.dropWhile_cons_of_neg hblank]
    simp
  · simp

/-- Blanks around a text make no difference to what is left of it. -/
theorem trim_append_blanks {before after : Text} (hbefore : ∀ c ∈ before, isBlank c = true)
    (hafter : ∀ c ∈ after, isBlank c = true) (text : Text) :
    trim (before ++ text ++ after) = trim text := by
  rw [trim, trim, List.append_assoc, List.dropWhile_append_of_pos hbefore, List.dropWhile_append]
  split
  · next hempty =>
    rw [List.dropWhile_eq_nil_iff.2 hafter, List.isEmpty_iff.1 hempty]
  · exact dropTrailing_append_blanks hafter _

/-- A text is trimmed alike with its last blanks and without. -/
theorem trim_dropTrailing (text : Text) : trim (dropTrailing isBlank text) = trim text := by
  obtain ⟨blanks, hsplit, hblanks⟩ := exists_dropTrailing isBlank text
  have h := trim_append_blanks (List.forall_mem_nil _) hblanks (dropTrailing isBlank text)
  rwa [List.nil_append, ← hsplit, eq_comm] at h

/-- What is trimmed from a text are blanks. -/
theorem exists_trim (text : Text) :
    ∃ before after, text = before ++ (trim text ++ after) ∧
      (∀ c ∈ before, isBlank c = true) ∧ ∀ c ∈ after, isBlank c = true :=
  exists_dropTrailing_dropWhile isBlank text

/-- A trimmed text neither begins nor ends with a blank. -/
theorem endsBlankless_trim (text : Text) :
    EndsBlankless (trim text).head? ∧ EndsBlankless (trim text).getLast? := by
  refine ⟨?_, endsBlankless_dropTrailing _⟩
  obtain ⟨blanks, hsplit, -⟩ := exists_dropTrailing isBlank (text.dropWhile isBlank)
  intro c hc
  apply endsBlankless_dropWhile text c
  rw [trim] at hc
  rw [hsplit, List.head?_append, hc, Option.some_or]

/-- A text that neither begins nor ends with a blank is not trimmed. -/
theorem trim_eq_self (hhead : EndsBlankless text.head?) (hlast : EndsBlankless text.getLast?) :
    trim text = text := by
  by_cases hempty : text = []
  · subst hempty
    rfl
  · have h := trim_of_blanks (List.forall_mem_nil _) (List.forall_mem_nil _) hempty hhead hlast
    rwa [List.nil_append, List.append_nil] at h

/-- A code point that is no blank keeps what is trimmed at the start and at the end apart. -/
theorem trim_append_cons {c : CodePoint} (hc : isBlank c = false) (first rest : Text) :
    trim (first ++ c :: rest) = first.dropWhile isBlank ++ c :: dropTrailing isBlank rest := by
  rw [trim, List.dropWhile_append]
  split
  · next hempty =>
    rw [List.isEmpty_iff.1 hempty, List.dropWhile_cons_of_neg (by simp [hc])]
    exact dropTrailing_append_cons hc [] rest
  · exact dropTrailing_append_cons hc _ rest

end Breakpoint.Text

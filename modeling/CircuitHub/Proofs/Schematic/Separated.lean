import CircuitHub.Proofs.Schematic.Scanning
import CircuitHub.Proofs.Schematic.Subpaths

/-!
# Path data in parts

A separator divides path data, and what stands behind it is read as if it stood alone. So the tokens
of path data are those of its parts, one part after the other, whatever the separators are and
however many of them follow each other. The first part with a mistake ends the reading, and its
mistake is found as far on as the part begins (`tokens_append_separator`).
-/

namespace CircuitHub.Path

variable {s : Char}

/-- If what stands before a separator can be read, so can the whole exactly if what stands after it
    can, and has the tokens of both; else the mistake of what stands after it is found where it
    stands in the whole. A mistake before the separator is found as if nothing followed. -/
theorem tokens_append_separator (hs : isSeparator s = true) (a b : Text) :
    (∀ before, tokens a = .ok before →
      (∀ after, tokens b = .ok after → tokens (a ++ s :: b) = .ok (before ++ after)) ∧
      ∀ e, tokens b = .error e → ∃ c place, e = .unexpected c place ∧
        tokens (a ++ s :: b) = .error (.unexpected c (place + (a.byteSize + 1)))) ∧
    ∀ e, tokens a = .error e → tokens (a ++ s :: b) = .error e := by
  rw [tokens_append_eq hs]
  refine ⟨fun before ha => ⟨fun after hb => ?_, fun e hb => ?_⟩, fun e ha => ?_⟩
  · rw [ha, hb]
    rfl
  · obtain ⟨c, place, rfl, -⟩ := straysAt_of_tokens hb
    refine ⟨c, place, rfl, ?_⟩
    rw [ha, hb]
    rfl
  · rw [ha]
    rfl

/-- A number that the letter after the separator could be the exponent of, and is not. -/
theorem tokens_append_separator_open :
    isSeparator ',' = true ∧ tokens "5" = .ok [.number (whole 5)] ∧
      tokens "e5" = .error (.unexpected 'e' 0) ∧ tokens "5,e5" = .error (.unexpected 'e' 2) := by
  have hcomma : isSeparator ',' = true := rfl
  have hfive : tokens "5" = .ok [.number (whole 5)] := by
    simp [tokens, tokensFrom, isSeparator, isCommandLetter, takeNumber?, splitSign, splitDigits,
      splitExponent, Except.map, readFloat?_five]
  have hletter : tokens "e5" = .error (.unexpected 'e' 0) := by
    simp [tokens, tokensFrom, isSeparator, isCommandLetter, takeNumber?, splitSign, splitDigits]
  obtain ⟨c, place, he, hwhole⟩ :=
    ((tokens_append_separator hcomma ['5'] ['e', '5']).1 _ hfive).2 _ hletter
  cases he
  exact ⟨hcomma, hfive, hletter, hwhole⟩

end CircuitHub.Path

import CircuitHub.Proofs.Markup.Escape
import CircuitHub.Proofs.Schematic.Reading
import CircuitHub.Proofs.Text.Parts

/-!
# The text of a label

The text of a label is put together from the pieces of text that a reader meets inside an element.
A character that is written by reference is none of them, and parts those before and after it. What
becomes of an escaped text is therefore the text without these characters, with the white space
around them taken off and one space in its place (`labelText`). The text survives exactly if none of
its characters is written by reference.

* `readFrom_escape`: what a label becomes by an escaped text;
* `read_document`: what is read of a drawing that shows one text element;
* `label_of_escaped`: when the label says what has been escaped.
-/

namespace CircuitHub.Schematic

open Markup

/-- The text of a label after another piece of text. -/
def addPiece (label piece : Text) : Text :=
  if piece.all isGap then label else label ++ (if label.isEmpty then [] else [' ']) ++ piece.trim

/-- The text of a label that an escaped text becomes. -/
def labelText (t : Text) : Text := (t.splitOnP isReferred).foldl addPiece []

/-! ## Pieces of text -/

section Pieces

variable {opened : List Text}

/-- The draft with a label that is being written. -/
def Draft.writing (draft : Draft) (label : Label) : Draft := { draft with openLabel? := some label }

theorem readFrom_gap {gap : Text} (h : gap.all isGap = true) (draft : Draft) (rest : Text) :
    readFrom draft ⟨gap ++ rest, opened⟩ = readFrom draft ⟨rest, opened⟩ :=
  readFrom_congr (Reader.next_gap h rest) draft

/-- A label is given the text that stands before a tag or a reference. -/
theorem readFrom_piece {t : Text} {stop : Char} (h : ∀ c ∈ t, isReferred c = false)
    (hstop : stop = '<' ∨ stop = '&') (draft : Draft) (label : Label) (rest : Text) :
    readFrom (draft.writing label) ⟨t ++ stop :: rest, opened⟩ =
      readFrom (draft.writing { label with text := addPiece label.text t })
        ⟨stop :: rest, opened⟩ := by
  by_cases hgap : t.all isGap = true
  · rw [addPiece, if_pos hgap]
    exact readFrom_gap hgap _ _
  · rw [addPiece, if_neg hgap]
    rw [Bool.not_eq_true] at hgap
    rw [readFrom_of_next (Reader.next_text h hgap hstop rest), Draft.event, Draft.text,
      Text.trim_dropAround (fun _ => isSpace_of_isGap)]
    rfl

/-- A label is given nothing for a reference. -/
theorem readFrom_written {c : Char} (h : isReferred c = true) (draft : Draft) (rest : Text) :
    readFrom draft ⟨written c ++ rest, opened⟩ = readFrom draft ⟨rest, opened⟩ :=
  readFrom_of_next (Reader.next_written h rest) draft

/-- What a label becomes by an escaped text, with some text before it that needed no escaping. -/
theorem readFrom_escape (t before : Text) (h : ∀ c ∈ before, isReferred c = false)
    (draft : Draft) (label : Label) (rest : Text) :
    readFrom (draft.writing label) ⟨before ++ (escape t ++ '<' :: rest), opened⟩ =
      readFrom (draft.writing { label with
          text := ((before ++ t).splitOnP isReferred).foldl addPiece label.text })
        ⟨'<' :: rest, opened⟩ := by
  -- The text before is the piece at hand: it grows up to the next reference or the end.
  induction t generalizing before label with
  | nil =>
    rw [List.append_nil, List.splitOnP_eq_singleton h, escape_nil, List.nil_append]
    exact readFrom_piece h (.inl rfl) draft label rest
  | cons c t ih =>
    cases hc : isReferred c with
    | true =>
      obtain ⟨name, hname⟩ := written_of_isReferred hc
      calc readFrom (draft.writing label) ⟨before ++ (escape (c :: t) ++ '<' :: rest), opened⟩
          = readFrom (draft.writing { label with text := addPiece label.text before })
              ⟨written c ++ (escape t ++ '<' :: rest), opened⟩ := by
            rw [escape_cons, List.append_assoc, hname]
            exact readFrom_piece h (.inr rfl) draft label _
        _ = readFrom (draft.writing { label with text := addPiece label.text before })
              ⟨escape t ++ '<' :: rest, opened⟩ := readFrom_written hc _ _
        _ = _ := by
            rw [List.splitOnP_append_cons _ _ hc, List.splitOnP_eq_singleton h]
            exact ih [] (by simp) _
    | false =>
      have hbefore : ∀ c' ∈ before ++ [c], isReferred c' = false := by
        intro c' hmem
        rcases List.mem_append.1 hmem with hmem | hmem
        · exact h c' hmem
        · rwa [List.mem_singleton.1 hmem]
      rw [escape_cons, written_of_not_isReferred hc]
      simpa using ih (before ++ [c]) hbefore label

end Pieces

/-! ## What is lost -/

theorem not_isReferred_addPiece {label piece : Text} (hlabel : ∀ c ∈ label, isReferred c = false)
    (hpiece : ∀ c ∈ piece, isReferred c = false) :
    ∀ c ∈ addPiece label piece, isReferred c = false := by
  intro c hc
  rw [addPiece] at hc
  split at hc
  · exact hlabel c hc
  · rcases List.mem_append.1 hc with hc | hc
    · rcases List.mem_append.1 hc with hc | hc
      · exact hlabel c hc
      · split at hc
        · cases hc
        · obtain rfl := List.mem_singleton.1 hc
          rfl
    · exact hpiece c ((Text.trim_isInfix piece).subset hc)

/-- No character that is written by reference gets into a label. -/
theorem not_isReferred_labelText (t : Text) : ∀ c ∈ labelText t, isReferred c = false := by
  have hfold (pieces : List Text) (label : Text)
      (hpieces : ∀ piece ∈ pieces, ∀ c ∈ piece, isReferred c = false)
      (hlabel : ∀ c ∈ label, isReferred c = false) :
      ∀ c ∈ pieces.foldl addPiece label, isReferred c = false := by
    induction pieces generalizing label with
    | nil => exact hlabel
    | cons piece pieces ih =>
      obtain ⟨hpiece, hpieces⟩ := List.forall_mem_cons.1 hpieces
      exact ih _ hpieces (not_isReferred_addPiece hlabel hpiece)
  exact hfold _ [] (fun piece hpiece c hc => not_of_mem_splitOnP hpiece hc) (by simp)

/-- A label says what has been escaped exactly if no character had to be written by reference. -/
theorem labelText_eq_self_iff {t : Text} (hne : t ≠ []) (htrim : t.trim = t) :
    labelText t = t ↔ ∀ c ∈ t, isReferred c = false := by
  constructor
  · intro h
    have := not_isReferred_labelText t
    rwa [h] at this
  · intro h
    -- There is one piece, and trimming it changes nothing.
    have hgap : ¬t.all isGap = true := by
      intro hgap
      have hblank : t.isBlank = true :=
        Text.isBlank_iff_forall.2 fun c hc => isSpace_of_isGap (List.all_eq_true.1 hgap c hc)
      rw [Text.not_isBlank_of_trim hne htrim] at hblank
      cases hblank
    rw [labelText, List.splitOnP_eq_singleton h]
    change addPiece [] t = t
    rw [addPiece, if_neg hgap, htrim]
    rfl

/-! ## A drawing of one label -/

/-- The label that a text element shows: it stands where its attributes say. -/
def labelOf (attributes : Attributes) (t : Text) : Label :=
  ⟨⟨attributes.number "x", attributes.number "y"⟩, t⟩

section Elements

variable (start : StartTag) {opened : List Text}

/-- The draft after the tag of a drawing. -/
theorem readFrom_svg (h : localName start.tag.name = "svg".toList) (draft : Draft) (rest : Text) :
    readFrom draft ⟨start.opening ++ rest, opened⟩ =
      readFrom { draft with
          viewBox? := draft.viewBox?.or (Attributes.viewBox? start.attributes) }
        ⟨rest, start.tag.name :: opened⟩ := by
  rw [readFrom_of_next (start.next_opening rest), Draft.event, Draft.tag, start.readAttributes_tag]
  simp only [h]
  rfl

/-- The draft after the tag of a text element. -/
theorem readFrom_text (h : localName start.tag.name = "text".toList) (draft : Draft) (rest : Text) :
    readFrom draft ⟨start.opening ++ rest, opened⟩ =
      readFrom (draft.writing (labelOf start.attributes []))
        ⟨rest, start.tag.name :: opened⟩ := by
  have helement : draft.element "text".toList start.attributes = .ok draft := by
    change Except.ok { draft with strokes := draft.strokes ++ [] } = _
    rw [List.append_nil]
  rw [readFrom_of_next (start.next_opening rest), Draft.event, Draft.tag, start.readAttributes_tag]
  simp only [h, Except.mapError, bind, Except.bind, helement]
  rfl

theorem readFrom_closing (draft : Draft) (rest : Text) :
    readFrom draft ⟨start.closing ++ rest, start.tag.name :: opened⟩ =
      readFrom (draft.close start.tag.name) ⟨rest, opened⟩ :=
  readFrom_of_next (start.next_closing rest) draft

end Elements

/-- A drawing that shows one text element, with white space around it. -/
def document (svg text : StartTag) (before after t : Text) : Text :=
  svg.opening ++ (before ++ (text.opening ++
    (escape t ++ (text.closing ++ (after ++ svg.closing)))))

section Document

variable {svg text : StartTag} {before after : Text}

/-- What is read of a drawing that shows one text element: its label, if it says anything. -/
theorem read_document (hsvg : localName svg.tag.name = "svg".toList)
    (htext : localName text.tag.name = "text".toList)
    (hbefore : before.all isGap = true) (hafter : after.all isGap = true) (t : Text) :
    read (document svg text before after t) =
      if (labelText t).isBlank then .error .empty
      else .ok ⟨(Attributes.viewBox? svg.attributes).getD (.around []), [],
        [labelOf text.attributes (labelText t)]⟩ := by
  let opened : Draft := ⟨Attributes.viewBox? svg.attributes, [], [], none⟩
  let written : Draft := opened.writing (labelOf text.attributes (labelText t))
  have hclosed (draft : Draft) : readFrom draft ⟨svg.closing, [svg.tag.name]⟩ =
      readFrom (draft.close svg.tag.name) ⟨[], []⟩ := by
    rw [← readFrom_closing, List.append_nil]
  calc read (document svg text before after t)
      = readFrom Draft.empty ⟨document svg text before after t, []⟩ := rfl
    _ = readFrom opened ⟨text.opening ++ (escape t ++ (text.closing ++ (after ++ svg.closing))),
          [svg.tag.name]⟩ := by
        rw [document, readFrom_svg svg hsvg, readFrom_gap hbefore]
        rfl
    _ = readFrom written ⟨text.closing ++ (after ++ svg.closing), [text.tag.name, svg.tag.name]⟩ := by
        rw [readFrom_text text htext]
        exact readFrom_escape t [] (by simp) opened _ _
    _ = readFrom (written.close text.tag.name) ⟨svg.closing, [svg.tag.name]⟩ := by
        rw [readFrom_closing, readFrom_gap hafter]
    _ = (written.close text.tag.name).finish := by
        rw [hclosed, Draft.close_of_ne_text (by rw [hsvg]; decide), readFrom_of_end rfl]
    _ = _ := by
        -- There is nothing to draw but the label, and a blank one is dropped.
        rw [Draft.close_of_text htext, Draft.pending]
        change Draft.finish { written with
          labels := [labelOf text.attributes (labelText t)].filter (!·.text.isBlank)
          openLabel? := none } = _
        by_cases hblank : (labelText t).isBlank = true
        · rw [if_pos hblank, List.filter_cons_of_neg (by simpa [labelOf] using hblank)]
          rfl
        · rw [if_neg hblank, List.filter_cons_of_pos (by simpa [labelOf] using hblank)]
          rfl

/-- A text that shows something is escaped and read as a text element. Unescaping would give it
    back. What is read instead is `labelText`, which the label says if it is not blank, and if it is
    there is nothing to draw. The one label of the drawing says what has been escaped exactly if no
    character had to be written by reference. -/
theorem label_of_escaped (hsvg : localName svg.tag.name = "svg".toList)
    (htext : localName text.tag.name = "text".toList)
    (hbefore : before.all isGap = true) (hafter : after.all isGap = true)
    {t : Text} (hne : t ≠ []) (htrim : t.trim = t) :
    unescape? (escape t) = some t ∧
    read (document svg text before after t) =
      (if (labelText t).isBlank then .error .empty
      else .ok ⟨(Attributes.viewBox? svg.attributes).getD (.around []), [],
        [labelOf text.attributes (labelText t)]⟩) ∧
    ((∃ s, read (document svg text before after t) = .ok s ∧ s.labels.map (·.text) = [t]) ↔
      ∀ c ∈ t, isReferred c = false) := by
  have hread := read_document hsvg htext hbefore hafter t
  refine ⟨unescape?_escape t, hread, ?_⟩
  rw [hread, ← labelText_eq_self_iff hne htrim]
  constructor
  · rintro ⟨s, hs, hlabels⟩
    split at hs
    · cases hs
    · cases hs
      exact (List.cons.inj hlabels).1
  · intro hself
    have hshown : ¬(labelText t).isBlank = true := by
      rw [hself, Text.not_isBlank_of_trim hne htrim]
      exact Bool.false_ne_true
    exact ⟨_, if_neg hshown, congrArg (fun label => [label]) hself⟩

end Document

/-! ### Two drawings -/

/-- The tag of a drawing without attributes. -/
def plainSvg : StartTag where
  content := "svg"
  attributes := []
  ends := rfl
  begins := by simp
  opens := by decide
  wellFormed := readAttributes_plain "svg"
  closes := rfl

theorem readAttributes_textAt : (Tag.ofContent "text x='45'").readAttributes =
    .ok [("x".toList, "45".toList)] := by
  have htake : takeAttribute? "x='45'".toList = some (("x".toList, "45".toList), []) := by
    simp [takeAttribute?, isKeyChar, isGap, unescape?]
  have hread : readAttributes? [] " x='45'" = some [("x".toList, "45".toList)] := by
    rw [readAttributes?, if_neg (by decide)]
    split
    · rename_i h
      exact absurd (htake.symm.trans h) (by simp)
    · rename_i h
      cases htake.symm.trans h
      rw [readAttributes?]
      rfl
  have hattributes : (Tag.ofContent "text x='45'").attributes = " x='45'".toList := rfl
  rw [Tag.readAttributes, hattributes, hread]
  rfl

/-- The tag of a text element with an attribute. -/
def textAt : StartTag where
  content := "text x='45'"
  attributes := [("x".toList, "45".toList)]
  ends := rfl
  begins := by simp
  opens := by decide
  wellFormed := readAttributes_textAt
  closes := rfl

/-- A label that needs no escaping. -/
theorem label_of_escaped_resistor :
    ∃ s, read "<svg>\n<text x='45'>R1 10k</text>\n</svg>" = .ok s ∧
      s.labels.map (·.text) = ["R1 10k".toList] := by
  have hdocument : document plainSvg textAt "\n" "\n" "R1 10k" =
      "<svg>\n<text x='45'>R1 10k</text>\n</svg>".toList := rfl
  rw [← hdocument]
  exact (label_of_escaped rfl rfl rfl rfl (by decide) (by decide)).2.2.2 (by simp [isReferred])

/-- A label is read, but it does not say what has been escaped. -/
theorem not_label_ampersand :
    escape "R&D" = "R&amp;D".toList ∧ Text.trim "R&D" = "R&D".toList ∧
    ∃ s, read "<svg><text x='45'>R&amp;D</text></svg>" = .ok s ∧
      s.labels.map (·.text) = ["R D".toList] ∧ s.labels.map (·.text) ≠ ["R&D".toList] := by
  have hdocument : document plainSvg textAt [] [] "R&D" =
      "<svg><text x='45'>R&amp;D</text></svg>".toList := rfl
  refine ⟨rfl, by decide, ?_⟩
  rw [← hdocument, read_document rfl rfl rfl rfl]
  exact ⟨_, rfl, rfl, by decide⟩

end CircuitHub.Schematic

import CircuitHub.Proofs.Text.Forms
import CircuitHub.Proofs.Toml.Remarks
import CircuitHub.Settings.Home

/-!
# Settings that are loaded again

Loading the settings changes the home folder at most once: it writes the file of the settings if none
was there and there is a place for one. What is written is a document of remarks, which sets nothing
(`Settings.read?_template`), so that loading it comes to the same as finding no file. No other file
is written, made or removed (`Folder.find?_write?_of_ne`).

* `Folder.write?_eq_none_iff`: where no file can be written;
* `Settings.load_again`: settings that are loaded again are the same, and the folder stays.
-/

namespace CircuitHub

namespace Folder

variable {folder after : Folder} {bytes : List UInt8} {place other : List Text}

theorem put_lookup_of_ne {name n : Text} (h : n ≠ name) (item : Item) (folder : Folder) :
    (put name item folder).lookup n = folder.lookup n := by
  induction folder with
  | nil => simp [put, h]
  | cons e folder ih =>
    obtain ⟨m, i⟩ := e
    by_cases hm : m = name
    · have hn : (n == name) = false := beq_eq_false_iff_ne.2 h
      simp [put, List.lookup_cons, hm, hn]
    · simp [put, List.lookup_cons, hm, ih]

/-! ## Files apart from the one that is written -/

/-- Where something is put at a name, the files are as they were, if those below the name are. -/
theorem find?_put_eq_file_iff {name : Text} {item : Item} {written : List UInt8}
    (hbelow : ∀ rest, other = name :: rest →
      (find? (put name item folder) (name :: rest) = some (.file written) ↔
        find? folder (name :: rest) = some (.file written))) :
    find? (put name item folder) other = some (.file written) ↔
      find? folder other = some (.file written) := by
  rcases other with _ | ⟨n, rest⟩
  · simp [find?]
  · by_cases hn : n = name
    · subst hn
      exact hbelow rest rfl
    · rw [find?, find?, put_lookup_of_ne hn]

/-- Writing to a file leaves every other file as it is, and makes no other. -/
theorem find?_write?_of_ne (h : folder.write? bytes place = some after) (hne : other ≠ place)
    (written : List UInt8) :
    after.find? other = some (.file written) ↔ folder.find? other = some (.file written) := by
  fun_induction write? folder bytes place generalizing after other with
  | case1 => cases h
  | case2 => cases h
  | case3 folder name hfolder =>
    cases h
    refine find?_put_eq_file_iff fun rest heq => ?_
    -- Something stands below the name, but nothing stands below a file.
    have hrest : rest ≠ [] := fun he => hne (by rw [heq, he])
    rw [find?, find?, put_lookup]
    rcases hlookup : folder.lookup name with _ | _ | inner
    · simp [hrest]
    · simp [hrest]
    · exact absurd hlookup (hfolder inner)
  | case4 folder name place hplace inner hinner ih =>
    obtain ⟨inner', hwrite, rfl⟩ := Option.map_eq_some_iff.1 h
    refine find?_put_eq_file_iff fun rest heq => ?_
    rw [find?, find?, put_lookup, hinner]
    exact ih hwrite fun he => hne (by rw [heq, he])
  | case5 => cases h
  | case6 folder name place hplace hnone ih =>
    obtain ⟨inner', hwrite, rfl⟩ := Option.map_eq_some_iff.1 h
    refine find?_put_eq_file_iff fun rest heq => ?_
    -- In a new folder there are no other files.
    rw [find?, find?, put_lookup, hnone]
    refine (ih hwrite fun he => hne (by rw [heq, he])).trans ?_
    cases rest <;> simp [find?]

/-! ## Where a file can be written -/

/-- A file stands on the way to a place. -/
def FileAbove (folder : Folder) (place : List Text) : Prop :=
  ∃ above below written, above ++ below = place ∧ below ≠ [] ∧
    folder.find? above = some (.file written)

theorem fileAbove_cons_iff {name : Text} :
    FileAbove folder (name :: place) ↔
      (∃ inner, folder.lookup name = some (.folder inner) ∧ FileAbove inner place) ∨
        ∃ written, folder.lookup name = some (.file written) ∧ place ≠ [] := by
  constructor
  · rintro ⟨above, below, written, heq, hne, hfile⟩
    rcases above with _ | ⟨n, above⟩
    · simp [find?] at hfile
    · obtain ⟨rfl, rfl⟩ := List.cons.inj heq
      rw [find?] at hfile
      rcases hlookup : folder.lookup n with _ | bytes | inner
      · simp [hlookup] at hfile
      · exact .inr ⟨bytes, rfl, by simp [hne]⟩
      · simp only [hlookup] at hfile
        exact .inl ⟨inner, rfl, above, below, written, rfl, hne, hfile⟩
  · rintro (⟨inner, hinner, above, below, written, rfl, hne, hfile⟩ | ⟨written, hfile, hne⟩)
    · exact ⟨name :: above, below, written, rfl, hne, by rw [find?, hinner]; exact hfile⟩
    · exact ⟨[name], place, written, rfl, hne, by rw [find?, hfile]; rfl⟩

/-- No file can be written exactly where a folder stands, or below a file. -/
theorem write?_eq_none_iff :
    folder.write? bytes place = none ↔
      (∃ items, folder.find? place = some (.folder items)) ∨ FileAbove folder place := by
  fun_induction write? folder bytes place with
  | case1 folder => simp [find?]
  | case2 folder name inner hinner => simp [find?, hinner]
  | case3 folder name hfolder =>
    rcases hlookup : folder.lookup name with _ | bytes | inner
    · simp [find?, fileAbove_cons_iff, hlookup]
    · simp [find?, fileAbove_cons_iff, hlookup]
    · exact absurd hlookup (hfolder inner)
  | case4 folder name place hplace inner hinner ih =>
    rw [Option.map_eq_none_iff, ih, find?, fileAbove_cons_iff]
    simp [hinner]
  | case5 folder name place hplace written hfile =>
    exact iff_of_true rfl (.inr (fileAbove_cons_iff.2 (.inr ⟨written, hfile, hplace⟩)))
  | case6 folder name place hplace hnone ih =>
    rw [Option.map_eq_none_iff, ih, find?, fileAbove_cons_iff]
    obtain ⟨n, rest, rfl⟩ := List.exists_cons_of_ne_nil hplace
    simp [hnone, find?, fileAbove_cons_iff]

end Folder

namespace Settings

/-! ## The file that is written -/

theorem isRemark_of_mem_template : ∀ line ∈ template.splitLines, Toml.isRemark line = true := by
  unfold template
  -- To take the characters of the literals one by one would be slow.
  repeat rw [String.toList_ofList]
  decide +kernel

/-- The document that is written says nothing, and so sets nothing. -/
theorem read?_template : read? template = some unset := by
  rw [read?, Toml.read?_of_remarks isRemark_of_mem_template]
  rfl

theorem ofBytes_eq_ok {bytes : List UInt8} {document : Text} {settings : Settings}
    (hdocument : Text.decode? bytes = some document) (h : read? document = some settings) :
    ofBytes bytes = .ok settings := by
  rw [ofBytes, hdocument]
  simp only [h]

theorem ofBytes_template : ofBytes (Text.encode template) = .ok unset :=
  ofBytes_eq_ok (Text.decode?_encode template) read?_template

/-! ## Loading -/

variable {home : Folder}

/-- The file of the settings can be written where there is none, unless another file stands in the
    place of the folder for it. -/
theorem write?_place_eq_none_iff (hnone : home.find? place = none) (bytes : List UInt8) :
    home.write? bytes place = none ↔ ∃ written, home.find? hubPlace = some (.file written) := by
  rw [Folder.write?_eq_none_iff, hnone]
  refine (or_iff_right (by simp)).trans ⟨?_, ?_⟩
  · rintro ⟨above, below, written, heq, hne, hfile⟩
    rcases above with _ | ⟨n, _ | ⟨m, above⟩⟩
    · simp [Folder.find?] at hfile
    · obtain ⟨rfl, -⟩ := List.cons.inj heq
      exact ⟨written, hfile⟩
    · -- Both names of the place are above already.
      obtain ⟨-, heq⟩ := List.cons.inj heq
      exact absurd (List.append_eq_nil_iff.1 (List.cons.inj heq).2).2 hne
  · rintro ⟨written, hfile⟩
    exact ⟨hubPlace, ["config.toml".toList], written, rfl, List.cons_ne_nil _ _, hfile⟩

/-- The home folder stays as it is, or the file of the settings is made and is what is loaded from
    then on. -/
theorem load_cases (home : Folder) :
    ((load home).2 = home ∧
      (home.find? place = none → ∃ written, home.find? hubPlace = some (.file written))) ∨
    home.find? place = none ∧ (∀ written, home.find? hubPlace ≠ some (.file written)) ∧
      ∃ after, home.write? (Text.encode template) place = some after ∧
        load home = (.ok unset, after) ∧ load after = (.ok unset, after) := by
  rcases hfind : home.find? place with _ | item
  · rcases hwrite : home.write? (Text.encode template) place with _ | after
    · refine .inl ⟨?_, fun _ => (write?_place_eq_none_iff hfind _).1 hwrite⟩
      rw [load, hfind]
      simp only [hwrite, Option.getD_none]
    · have hplace : ∀ written, home.find? hubPlace ≠ some (.file written) := by
        intro written hfile
        have hblocked := (write?_place_eq_none_iff hfind (Text.encode template)).2 ⟨written, hfile⟩
        exact Option.some_ne_none after (hwrite.symm.trans hblocked)
      refine .inr ⟨rfl, hplace, after, rfl, ?_, ?_⟩
      · rw [load, hfind]
        simp only [hwrite, Option.getD_some]
      · rw [load, Folder.find?_write? hwrite]
        simp only [ofBytes_template]
  · exact .inl ⟨load_kept (by rw [hfind]; rfl), fun h => absurd h (Option.some_ne_none item)⟩

/-- Settings that are loaded again are the same, or the same error, and the home folder stays as it
    is. The first time it changes exactly if there was no file of the settings and no other file in
    the place of the folder for it. Then a file is there that sets nothing. All other files are as
    they were, and an error changes nothing. -/
theorem load_again (home : Folder) :
    load (load home).2 = load home ∧
    ((load home).2 ≠ home ↔
      home.find? place = none ∧ ∀ written, home.find? hubPlace ≠ some (.file written)) ∧
    ((load home).2 ≠ home → ∃ bytes, (load home).2.find? place = some (.file bytes) ∧
      ofBytes bytes = .ok unset) ∧
    (∀ other, other ≠ place → ∀ written,
      (load home).2.find? other = some (.file written) ↔ home.find? other = some (.file written)) ∧
    ∀ e, (load home).1 = .error e → (load home).2 = home := by
  rcases load_cases home with ⟨hsame, htaken⟩ | ⟨hnone, hplace, after, hwrite, hload, hagain⟩
  · refine ⟨by rw [hsame], iff_of_false (not_not_intro hsame) ?_, fun h => absurd hsame h,
      fun other _ written => by rw [hsame], fun _ _ => hsame⟩
    rintro ⟨hnone, hplace⟩
    obtain ⟨written, hfile⟩ := htaken hnone
    exact hplace written hfile
  · have hfound : after.find? place = some (.file (Text.encode template)) :=
      Folder.find?_write? hwrite
    rw [hload]
    refine ⟨hagain, iff_of_true ?_ ⟨hnone, hplace⟩, fun _ => ⟨_, hfound, ofBytes_template⟩,
      fun other hother => Folder.find?_write?_of_ne hwrite hother, fun _ h => nomatch h⟩
    rintro rfl
    rw [hnone] at hfound
    exact nomatch hfound

end Settings

end CircuitHub

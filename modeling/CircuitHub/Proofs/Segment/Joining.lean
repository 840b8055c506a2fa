import CircuitHub.Proofs.Segment.Conservation

/-!
# Texts that follow each other

A reply may go on after it could have ended. If it has closed every fence that it opened, what comes
below an empty line is read as if it stood alone, and the segments so far stay as they are. Right
after a closing fence not even the empty line is needed, since no mark of the fence can be part of
another one: what follows is read by itself (`eager_append_closed`). So neighbouring blocks of code
are never read as one.

* `segments_append_closed`: the segments of the whole are those of the one text and then those of
  the other.
-/

namespace CircuitHub

/-- What follows a closing fence has segments of its own. -/
theorem eager_append_closed {a : Text} {ps : List Text} (hodd : (pieces a).length % 2 = 1)
    (ha : pieces a = ps ++ [[]]) (b : Text) : eager (a ++ b) = eager a ++ eager b := by
  have hlen : ps.length % 2 = 0 := by
    rw [ha, List.length_append, List.length_singleton] at hodd
    omega
  -- The last piece is empty, and so the next one is as if nothing came before it.
  rw [eager, pieces_append ha, List.nil_append, segmentsOfPieces_append hlen, eager, ha,
    segmentsOfPieces_append hlen, segmentsOfPieces_singleton, paragraphs_nil, List.map_nil,
    List.append_nil, eager]

/-- If a text closes every fence that it opens, what comes below an empty line after it has segments
    of its own, and those of the text stay. If the text ends in a closing fence, this is so for
    anything that follows, whether below an empty line or not. -/
theorem segments_append_closed {a : Text} (h : fenceCount a % 2 = 0) (b : Text) :
    segments (a ++ '\n' :: '\n' :: b) = segments a ++ segments b ∧
      ((pieces a).getLast? = some [] → segments (a ++ b) = segments a ++ segments b) := by
  have hodd : (pieces a).length % 2 = 1 := by
    rw [length_pieces]
    omega
  simp only [segments_eq_eager]
  refine ⟨eager_append_blank hodd b, fun hlast => ?_⟩
  obtain ⟨ps, hps⟩ := List.getLast?_eq_some_iff.1 hlast
  exact eager_append_closed hodd hps b

/-- A closed block of code that names no language, and one mark of a fence after it. -/
theorem segments_append_closed_blocks :
    fenceCount (fence ++ ['\n', 'a', '\n'] ++ fence) % 2 = 0 ∧
      (pieces (fence ++ ['\n', 'a', '\n'] ++ fence)).getLast? = some [] ∧
      segments (fence ++ ['\n', 'a', '\n'] ++ fence ++ '\n' :: '\n' :: ['\x60', 'b']) =
        [.code [] ['a'], .paragraph ['\x60', 'b']] ∧
      segments (fence ++ ['\n', 'a', '\n'] ++ fence ++ ['\x60', 'b']) =
        [.code [] ['a'], .paragraph ['\x60', 'b']] := by
  have hclosed : fenceCount (fence ++ ['\n', 'a', '\n'] ++ fence) % 2 = 0 := by decide
  have hlast : (pieces (fence ++ ['\n', 'a', '\n'] ++ fence)).getLast? = some [] := by decide
  have hparts : segments (fence ++ ['\n', 'a', '\n'] ++ fence) ++ segments ['\x60', 'b'] =
      [.code [] ['a'], .paragraph ['\x60', 'b']] := by
    rw [segments_eq_eager, segments_eq_eager]
    decide +kernel
  obtain ⟨hblank, hnext⟩ := segments_append_closed hclosed ['\x60', 'b']
  exact ⟨hclosed, hlast, hblank.trans hparts, (hnext hlast).trans hparts⟩

end CircuitHub

import Mathlib.Data.List.Basic
import StatementSegments.Tree.Arena

namespace StatementSegments

theorem utf8ByteSize_ofList_cons (c : Char) (cs : List Char) :
    (String.ofList (c :: cs)).utf8ByteSize = c.utf8Size + (String.ofList cs).utf8ByteSize := by
  rw [← List.singleton_append, String.ofList_append, String.utf8ByteSize_append,
    ← String.singleton_eq_ofList, String.utf8ByteSize_singleton]

theorem length_le_utf8ByteSize (cs : List Char) : cs.length ≤ (String.ofList cs).utf8ByteSize := by
  induction cs with
  | nil => exact Nat.zero_le _
  | cons c cs ih =>
      have hsize : 0 < c.utf8Size := c.utf8Size_pos
      rw [utf8ByteSize_ofList_cons, List.length_cons]
      omega

theorem getElem?_boundariesFrom {offset i : Nat} {cs : List Char} (h : i ≤ cs.length) :
    (boundariesFrom offset cs)[i]? =
      some (offset + (String.ofList (cs.take i)).utf8ByteSize) := by
  induction cs generalizing offset i with
  | nil =>
      obtain rfl := Nat.le_zero.mp h
      rfl
  | cons c cs ih =>
      cases i with
      | zero => rfl
      | succ i =>
          rw [boundariesFrom, List.getElem?_cons_succ, ih (Nat.le_of_succ_le_succ h),
            List.take_succ_cons, utf8ByteSize_ofList_cons, Nat.add_assoc]

/-- Bytes that make up the middle one of three texts are that text. -/
theorem extract_middle (before middle after : String) :
    (before ++ middle ++ after).toByteArray.extract before.utf8ByteSize
      (before ++ middle).utf8ByteSize = middle.toByteArray := by
  rw [String.toByteArray_append, String.toByteArray_append, String.utf8ByteSize_append]
  rw [ByteArray.append_assoc]
  calc
    _ = (middle.toByteArray ++ after.toByteArray).extract 0 middle.utf8ByteSize :=
      ByteArray.extract_append_size_add
    _ = middle.toByteArray := ByteArray.extract_append_eq_left rfl

namespace Checked

theorem slice_middle (before middle after : String) :
    slice (before ++ middle ++ after) before.utf8ByteSize (before ++ middle).utf8ByteSize =
      .ok middle := by
  have hfirst : String.Pos.Raw.IsValid (before ++ middle ++ after) ⟨before.utf8ByteSize⟩ :=
    String.Pos.Raw.isValid_iff_exists_append.mpr
      ⟨before, middle ++ after, String.append_assoc, rfl⟩
  have hlast : String.Pos.Raw.IsValid (before ++ middle ++ after)
      ⟨(before ++ middle).utf8ByteSize⟩ :=
    String.Pos.Raw.isValid_iff_exists_append.mpr ⟨before ++ middle, after, rfl, rfl⟩
  have horder : before.utf8ByteSize ≤ (before ++ middle).utf8ByteSize := by
    rw [String.utf8ByteSize_append]
    exact Nat.le_add_right _ _
  rw [slice, dif_pos ⟨horder, hfirst, hlast⟩]
  congr 1
  rw [← String.toByteArray_inj, String.toByteArray_extract]
  exact extract_middle before middle after

end Checked

namespace StatementText

variable (text : StatementText)

/-- Where the character at an offset begins; behind the last character it is where the text ends. -/
def boundary (offset : Nat) : Nat :=
  (String.ofList (text.content.toList.take offset)).utf8ByteSize

theorem getElem?_boundaries {offset : Nat} (h : offset ≤ text.length) :
    text.boundaries[offset]? = some (text.boundary offset) := by
  rw [length_eq, ← String.length_toList] at h
  rw [text.boundaries_eq, List.getElem?_toArray, getElem?_boundariesFrom h, Nat.zero_add, boundary]

/-- The text of the characters from `start` to `stop`, both included. -/
def part (start stop : Nat) : String :=
  String.ofList (text.content.toList.extract start (stop + 1))

@[simp]
theorem toList_part (start stop : Nat) :
    (text.part start stop).toList = text.content.toList.extract start (stop + 1) :=
  String.toList_ofList

section Parts

variable {start stop : Nat} (h : start ≤ stop)
include h

theorem take_append_part :
    String.ofList (text.content.toList.take start) ++ text.part start stop =
      String.ofList (text.content.toList.take (stop + 1)) := by
  have hsum : start + (stop + 1 - start) = stop + 1 := by omega
  rw [part, ← String.ofList_append, List.extract_eq_take_drop, ← List.take_add, hsum]

theorem append_part_append :
    String.ofList (text.content.toList.take start) ++ text.part start stop ++
      String.ofList (text.content.toList.drop (stop + 1)) = text.content := by
  rw [text.take_append_part h, ← String.ofList_append, List.take_append_drop, String.ofList_toList]

theorem slice_boundaries :
    Checked.slice text.content (text.boundary start) (text.boundary (stop + 1)) =
      .ok (text.part start stop) := by
  have hslice := Checked.slice_middle (String.ofList (text.content.toList.take start))
    (text.part start stop) (String.ofList (text.content.toList.drop (stop + 1)))
  rwa [text.append_part_append h, text.take_append_part h] at hslice

theorem slice?_eq (hstop : stop < text.length) :
    text.slice? ⟨start, stop⟩ = some (text.part start stop) := by
  have hextract := extract_middle (String.ofList (text.content.toList.take start))
    (text.part start stop) (String.ofList (text.content.toList.drop (stop + 1)))
  rw [text.append_part_append h, text.take_append_part h] at hextract
  have hbytes : text.content.toUTF8.extract (text.boundary start) (text.boundary (stop + 1)) =
      (text.part start stop).toByteArray := hextract
  have hstart : start ≤ text.length := Nat.le_trans h (Nat.le_of_lt hstop)
  simp only [slice?, text.getElem?_boundaries hstart, text.getElem?_boundaries hstop,
    Option.bind_eq_bind, Option.bind_some, hbytes]
  rw [String.fromUTF8?, dif_pos (text.part start stop).isValidUTF8]
  rfl

end Parts

/-- What lies within a part is found in the text of that part at the difference of the starts. -/
theorem slice?_part {start stop : Nat} {span : Span} (hstart : start ≤ span.start)
    (horder : span.start ≤ span.stop) (hstop : span.stop ≤ stop) (hlength : stop < text.length) :
    (StatementText.ofString (text.part start stop)).slice?
        ⟨span.start - start, span.stop - start⟩ = some (text.part span.start span.stop) := by
  have hle : span.start - start ≤ span.stop - start := Nat.sub_le_sub_right horder start
  have hinner : span.stop - start < (StatementText.ofString (text.part start stop)).length := by
    rw [length_eq] at hlength ⊢
    rw [← String.length_toList] at hlength
    simp only [ofString, ← String.length_toList, toList_part, List.extract_eq_take_drop,
      List.length_take, List.length_drop]
    omega
  rw [slice?_eq _ hle hinner]
  congr 1
  rw [← String.toList_inj, toList_part, toList_part]
  simp only [ofString, toList_part, List.extract_eq_take_drop, List.drop_take, List.take_take,
    List.drop_drop]
  have hdrop : start + (span.start - start) = span.start := by omega
  have htake : min (span.stop - start + 1 - (span.start - start))
      (stop + 1 - start - (span.start - start)) = span.stop + 1 - span.start := by omega
  rw [hdrop, htake]

end StatementText

end StatementSegments

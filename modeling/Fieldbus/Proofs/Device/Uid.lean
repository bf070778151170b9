import Fieldbus.Device.Uid
import Fieldbus.Proofs.Text.Utf8

/-!
# Uids from device paths are canonical

A uid consists of characters that every later use of it leaves alone. It depends on the last
component of the path only, whatever stands in front of it and however many slashes and dots come
after it.

* `Path.components_append`: the components on both sides of a slash.
* `Path.components_append_flatten`: slashes and single dots at the end bring no component.
* `Path.Names`: a component that names something.
* `UidChar`: the characters of a uid.
* `deviceUid_of_uid`: a uid is its own uid.
* **`deviceUid_canonical`**: all this together.
-/

namespace Fieldbus

namespace Path

variable {a b name : Bytes}

/-! ## Components -/

theorem pieces_ne_nil (a : Bytes) : pieces a ≠ [] := by
  cases a with
  | nil => simp [pieces]
  | cons x a =>
    show consPiece x (pieces a) ≠ []
    unfold consPiece
    split <;> split <;> simp

theorem pieces_append (a b : Bytes) : pieces (a ++ slash :: b) = pieces a ++ pieces b := by
  induction a with
  | nil =>
    show consPiece slash (pieces b) = [] :: pieces b
    obtain ⟨p, ps, pieces_b⟩ := List.exists_cons_of_ne_nil (pieces_ne_nil b)
    rw [pieces_b]
    rfl
  | cons x a ih =>
    show consPiece x (pieces (a ++ slash :: b)) = consPiece x (pieces a) ++ pieces b
    obtain ⟨p, ps, pieces_a⟩ := List.exists_cons_of_ne_nil (pieces_ne_nil a)
    rw [ih, pieces_a]
    by_cases h : x = slash <;> simp [consPiece, h]

theorem pieces_of_not_mem (h : slash ∉ name) : pieces name = [name] := by
  induction name with
  | nil => rfl
  | cons x name ih =>
    rw [List.mem_cons, not_or] at h
    show consPiece x (pieces name) = _
    rw [ih h.2]
    simp [consPiece, Ne.symm h.1]

/-- The components on both sides of a slash are those of the whole. -/
theorem components_append (a b : Bytes) :
    components (a ++ slash :: b) = components a ++ components b := by
  rw [components, pieces_append, List.filter_append]
  rfl

/-- Slashes and single dots at the end bring no component. -/
theorem components_append_flatten {tail : List Bytes}
    (blank : ∀ s ∈ tail, s = [slash] ∨ s = [slash, dot]) (a : Bytes) :
    components (a ++ tail.flatten) = components a := by
  induction tail generalizing a with
  | nil => rw [List.flatten_nil, List.append_nil]
  | cons s tail ih =>
    obtain ⟨here, blank⟩ := List.forall_mem_cons.mp blank
    rw [List.flatten_cons, ← List.append_assoc, ih blank]
    have nothing : components [] = [] ∧ components [dot] = [] := by decide
    rcases here with rfl | rfl
    · rw [components_append a [], nothing.1, List.append_nil]
    · rw [components_append a [dot], nothing.2, List.append_nil]

/-- A component that names something: it is no step to where one is or further up. -/
structure Names (name : Bytes) : Prop where
  nonempty : name ≠ []
  whole : slash ∉ name
  stays : name ≠ [dot]
  climbs : name ≠ [dot, dot]

theorem Names.components_eq (h : Names name) : components name = [name] := by
  rw [components, pieces_of_not_mem h.whole]
  simp [h.nonempty, h.stays]

theorem Names.fileName?_eq (h : Names name) (last : (components a).getLast? = some name) :
    fileName? a = some name := by
  rw [fileName?, last, Option.bind_some, if_neg h.climbs]

theorem Names.fileName?_self (h : Names name) : fileName? name = some name := by
  apply h.fileName?_eq
  rw [h.components_eq]
  rfl

theorem ne_nil_of_fileName? (h : fileName? a = some name) : name ≠ [] := by
  obtain ⟨p, last, same⟩ := Option.bind_eq_some_iff.mp h
  have counts := (List.mem_filter.mp (List.mem_of_getLast? last)).2
  split at same
  · cases same
  · obtain rfl := Option.some.inj same
    exact (of_decide_eq_true counts).1

end Path

/-! ## Characters -/

/-- The characters of a uid: small letters and digits of ASCII, and the underscore. -/
def UidChar (c : Char) : Prop := 'a' ≤ c ∧ c ≤ 'z' ∨ '0' ≤ c ∧ c ≤ '9' ∨ c = '_'

section

variable {c : Char}

theorem uidChar_iff : UidChar c ↔
    97 ≤ c.toNat ∧ c.toNat ≤ 122 ∨ 48 ≤ c.toNat ∧ c.toNat ≤ 57 ∨ c.toNat = 95 := by
  simp only [UidChar, Char.le_def, UInt32.le_iff_toNat_le, ← Char.toNat_inj]
  rfl

theorem toNat_toLower (c : Char) : c.toLower.toNat =
    if 65 ≤ c.toNat ∧ c.toNat ≤ 90 then c.toNat + 32 else c.toNat := by
  have upper : c.val ≥ 'A'.val ∧ c.val ≤ 'Z'.val ↔ 65 ≤ c.toNat ∧ c.toNat ≤ 90 := by
    rw [ge_iff_le, UInt32.le_iff_toNat_le, UInt32.le_iff_toNat_le]
    rfl
  unfold Char.toLower
  by_cases h : 65 ≤ c.toNat ∧ c.toNat ≤ 90
  · rw [dif_pos (upper.mpr h), if_pos h]
    show (c.val + 32).toNat = c.toNat + 32
    rw [UInt32.toNat_add]
    exact Nat.mod_eq_of_lt (show c.toNat + 32 < 2 ^ 32 by omega)
  · rw [dif_neg (mt upper.mp h), if_neg h]

theorem isAlphanum_iff : c.isAlphanum = true ↔ 65 ≤ c.toNat ∧ c.toNat ≤ 90 ∨
    97 ≤ c.toNat ∧ c.toNat ≤ 122 ∨ 48 ≤ c.toNat ∧ c.toNat ≤ 57 := by
  delta Char.isAlphanum Char.isAlpha Char.isUpper Char.isLower Char.isDigit
  simp only [Bool.or_eq_true, Bool.and_eq_true, decide_eq_true_iff, ge_iff_le,
    UInt32.le_iff_toNat_le, or_assoc]
  rfl

theorem uidChar_uidChar (c : Char) : UidChar (uidChar c) := by
  unfold uidChar
  split
  · next alnum =>
    rw [isAlphanum_iff, toNat_toLower] at alnum
    rw [uidChar_iff, toNat_toLower]
    split at alnum <;> split <;> omega
  · exact .inr (.inr rfl)

theorem UidChar.uidChar_eq (h : UidChar c) : uidChar c = c := by
  have range := uidChar_iff.mp h
  have same : c.toLower = c := by
    rw [← Char.toNat_inj, toNat_toLower, if_neg (by omega)]
  unfold uidChar
  rw [same]
  split
  · rfl
  · next other =>
    rw [isAlphanum_iff] at other
    exact (Char.toNat_inj.mp (show c.toNat = 95 by omega)).symm

end

/-! ## Uids -/

theorem Utf8.lossy_utf8 (s : String) : lossy (utf8 s) = s := by
  rw [lossy, scan_utf8, List.map_map]
  have same : ((fun c : Option Char => c.getD '\uFFFD') ∘ some) = id := rfl
  rw [same, List.map_id, String.ofList_toList]

section

variable {path name : Bytes} {s : String}

theorem deviceUid_of_names (h : Path.fileName? path = some name) :
    deviceUid path = String.ofList ((Utf8.lossy name).toList.map uidChar) := by
  rw [deviceUid, h]
  rfl

theorem uidChar_of_mem (path : Bytes) : ∀ c ∈ (deviceUid path).toList, UidChar c := by
  rw [deviceUid, String.toList_ofList]
  intro c hc
  obtain ⟨x, -, rfl⟩ := List.mem_map.mp hc
  exact uidChar_uidChar x

theorem deviceUid_eq_empty_iff : deviceUid path = "" ↔ path = [] := by
  constructor
  · intro empty
    apply Classical.byContradiction
    intro nonempty
    have named : (Path.fileName? path).getD path ≠ [] := by
      cases h : Path.fileName? path with
      | none => exact nonempty
      | some name => exact Path.ne_nil_of_fileName? h
    rw [deviceUid, ← String.toList_eq_nil_iff, String.toList_ofList, List.map_eq_nil_iff,
      Utf8.lossy, String.toList_ofList, List.map_eq_nil_iff] at empty
    exact Utf8.scan_ne_nil named empty
  · rintro rfl
    decide

theorem names_of_uidChars (chars : ∀ c ∈ s.toList, UidChar c) (h : s ≠ "") :
    Path.Names (utf8 s) := by
  -- neither slashes nor dots are characters of a uid, nor bytes of one
  have other : ∀ b ∈ utf8 s, b.toNat ≠ 0x2F ∧ b.toNat ≠ 0x2E := by
    intro b hb
    rw [Utf8.utf8_eq_flatMap, List.mem_flatMap] at hb
    obtain ⟨c, hc, hb⟩ := hb
    have range := uidChar_iff.mp (chars c hc)
    by_cases ascii : b.toNat < 128
    · have := Utf8.toNat_of_mem_utf8EncodeChar hb ascii
      omega
    · omega
  refine ⟨fun empty => h ?_, fun hb => (other _ hb).1 rfl, fun dots => ?_, fun dots => ?_⟩
  · exact utf8_inj.mp (empty.trans (by decide))
  · exact (other Path.dot (by simp [dots])).2 rfl
  · exact (other Path.dot (by simp [dots])).2 rfl

/-- A uid is its own uid. -/
theorem deviceUid_of_uid (chars : ∀ c ∈ s.toList, UidChar c) : deviceUid (utf8 s) = s := by
  by_cases h : s = ""
  · subst h
    exact deviceUid_eq_empty_iff.mpr (by decide)
  · have names := names_of_uidChars chars h
    rw [deviceUid_of_names names.fileName?_self,
      Utf8.lossy_utf8, List.map_congr_left fun c hc => (chars c hc).uidChar_eq, List.map_id',
      String.ofList_toList]

theorem Path.Names.deviceUid_eq (h : Path.Names name) {tail : List Bytes}
    (blank : ∀ s ∈ tail, s = [Path.slash] ∨ s = [Path.slash, Path.dot]) (directory : Bytes) :
    deviceUid (directory ++ Path.slash :: (name ++ tail.flatten)) = deviceUid name := by
  have last : (Path.components (directory ++ Path.slash :: (name ++ tail.flatten))).getLast? =
      some name := by
    rw [Path.components_append, Path.components_append_flatten blank, h.components_eq,
      List.getLast?_concat]
  rw [deviceUid_of_names (h.fileName?_eq last), deviceUid_of_names h.fileName?_self]

end

/-- **Uids from device paths are canonical.** A uid consists of small letters, digits and
underscores, only the empty path has an empty one, and a uid is its own uid. Whatever stands in
front of the last component, and whatever slashes and single dots come after it, the uid is that of
the component, be it well formed or not. -/
theorem deviceUid_canonical (path : Bytes) :
    (∀ c ∈ (deviceUid path).toList, UidChar c) ∧
    (deviceUid path = "" ↔ path = []) ∧
    deviceUid (utf8 (deviceUid path)) = deviceUid path ∧
    ∀ (directory name : Bytes) (tail : List Bytes), Path.Names name →
      (∀ s ∈ tail, s = [Path.slash] ∨ s = [Path.slash, Path.dot]) →
      deviceUid (directory ++ Path.slash :: (name ++ tail.flatten)) = deviceUid name :=
  ⟨uidChar_of_mem path, deviceUid_eq_empty_iff, deviceUid_of_uid (uidChar_of_mem path),
    fun directory _ _ names blank => names.deviceUid_eq blank directory⟩

/-- The name of the device ends in a dot and is not well formed; what stands in front of it is
relative and climbs. -/
theorem deviceUid_canonical_malformed :
    let name : Bytes := utf8 "Tty" ++ [0xFF, 0x2E]
    let path : Bytes := utf8 "../by-id/" ++ Path.slash :: (name ++ utf8 "//./")
    Path.Names name ∧ deviceUid path = deviceUid name ∧ deviceUid name = "tty__" := by
  intro name path
  have names : Path.Names name := ⟨by decide, by decide, by decide, by decide⟩
  obtain ⟨-, -, -, last⟩ := deviceUid_canonical path
  refine ⟨names, ?_, by decide⟩
  exact last (utf8 "../by-id/") name [[Path.slash], [Path.slash, Path.dot], [Path.slash]] names
    (by decide)

end Fieldbus

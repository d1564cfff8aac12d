import Mathlib.Data.List.Perm.Basic
import QuadGraph.Json
import QuadGraph.Proofs.Keys

/-!
# Equal JSON values and their texts

The members of an object have no order of their own, so two values may be equal (`Equal`) that are
written differently. The compact text of a value keeps the order in which it was given, and it can be
read back from the front, whatever follows it (`chars_append_inj`): a string ends at its first quote
that is not escaped (`readString`), and the character that a text begins with tells strings, arrays
and objects apart. So values that were given differently have different texts (`text_inj`).
-/

namespace QuadGraph

namespace Json

/-! ## Strings -/

def hexValue (c : Char) : Nat := if c.toNat < 58 then c.toNat - 48 else c.toNat - 87

theorem hexValue_hexDigit : ∀ n < 16, hexValue (hexDigit n) = n := by decide

def readString : List Char → List Char × List Char
  | '"' :: cs => ([], cs)
  | '\\' :: 'b' :: cs => push ['\x08'] (readString cs)
  | '\\' :: 'f' :: cs => push ['\x0c'] (readString cs)
  | '\\' :: 'n' :: cs => push ['\n'] (readString cs)
  | '\\' :: 'r' :: cs => push ['\r'] (readString cs)
  | '\\' :: 't' :: cs => push ['\t'] (readString cs)
  | '\\' :: 'u' :: _ :: _ :: x :: y :: cs =>
    push [Char.ofNat (16 * hexValue x + hexValue y)] (readString cs)
  | '\\' :: c :: cs => push [c] (readString cs)
  | c :: cs => push [c] (readString cs)
  | [] => ([], [])

theorem readString_charText (c : Char) (r : List Char) :
    readString (charText c ++ r) = push [c] (readString r) := by
  unfold charText
  split
  case h_8 =>
    split
    case isTrue h =>
      have hhigh := hexValue_hexDigit (c.toNat / 16) (by omega)
      have hlow := hexValue_hexDigit (c.toNat % 16) (by omega)
      have hsum : 16 * (c.toNat / 16) + c.toNat % 16 = c.toNat := by omega
      simp only [List.cons_append, List.nil_append, readString, hhigh, hlow, hsum, Char.ofNat_toNat]
    case isFalse =>
      rw [List.singleton_append, readString]
      all_goals simp_all
  all_goals rfl

theorem readString_flatMap (s : String) (r : List Char) :
    readString (s.toList.flatMap charText ++ '"' :: r) = (s.toList, r) := by
  induction s.toList with
  | nil => rfl
  | cons c cs ih =>
    rw [List.flatMap_cons, List.append_assoc, readString_charText, ih]
    rfl

theorem stringText_append_inj {a b : String} {r s : List Char}
    (h : stringText a ++ r = stringText b ++ s) : a = b ∧ r = s := by
  simp only [stringText, List.cons_append, List.append_assoc, List.nil_append, List.cons.injEq,
    true_and] at h
  have h' := congrArg readString h
  rw [readString_flatMap, readString_flatMap] at h'
  obtain ⟨hab, hrs⟩ := Prod.mk.inj h'
  exact ⟨String.toList_inj.mp hab, hrs⟩

/-! ## Values -/

def initial : Json → Char
  | string _ => '"'
  | array _ => '['
  | object _ => '\x7b'

theorem initial_ne_closing (j : Json) : j.initial ≠ ']' := by
  cases j <;> simp [initial]

theorem chars_head (j : Json) : ∃ cs, j.chars = j.initial :: cs := by
  cases j with
  | string s => exact ⟨_, rfl⟩
  | array js => cases js <;> exact ⟨_, rfl⟩
  | object ms => cases ms <;> exact ⟨_, rfl⟩

theorem initial_eq {j k : Json} {r s : List Char} (h : j.chars ++ r = k.chars ++ s) :
    j.initial = k.initial := by
  obtain ⟨cs, hj⟩ := chars_head j
  obtain ⟨ds, hk⟩ := chars_head k
  rw [hj, hk] at h
  exact (List.cons.inj h).1

mutual

theorem chars_append_inj : ∀ {j k : Json} {r s : List Char},
    j.chars ++ r = k.chars ++ s → j = k ∧ r = s
  | .string a, k, r, s, h => by
    have hinitial := initial_eq h
    cases k with
    | string b =>
      obtain ⟨rfl, hrs⟩ := stringText_append_inj h
      exact ⟨rfl, hrs⟩
    | _ => simp [initial] at hinitial
  | .array as, k, r, s, h => by
    have hinitial := initial_eq h
    cases k with
    | array bs =>
      obtain ⟨rfl, hrs⟩ := array_append_inj h
      exact ⟨rfl, hrs⟩
    | _ => simp [initial] at hinitial
  | .object ms, k, r, s, h => by
    have hinitial := initial_eq h
    cases k with
    | object ns =>
      obtain ⟨rfl, hrs⟩ := object_append_inj h
      exact ⟨rfl, hrs⟩
    | _ => simp [initial] at hinitial

theorem array_append_inj : ∀ {as bs : List Json} {r s : List Char},
    (array as).chars ++ r = (array bs).chars ++ s → as = bs ∧ r = s
  | [], [], r, s, h => ⟨rfl, by simpa [chars] using h⟩
  | [], b :: bs, r, s, h => by
    obtain ⟨cs, hb⟩ := chars_head b
    simp only [chars, hb, List.cons_append, List.cons.injEq, true_and] at h
    exact absurd h.1.symm b.initial_ne_closing
  | a :: as, [], r, s, h => by
    obtain ⟨cs, ha⟩ := chars_head a
    simp only [chars, ha, List.cons_append, List.cons.injEq, true_and] at h
    exact absurd h.1 a.initial_ne_closing
  | a :: as, b :: bs, r, s, h => by
    simp only [chars, List.cons_append, List.append_assoc, List.cons.injEq, true_and] at h
    obtain ⟨rfl, htail⟩ := chars_append_inj h
    obtain ⟨rfl, hrs⟩ := tailChars_append_inj htail
    exact ⟨rfl, hrs⟩

theorem tailChars_append_inj : ∀ {as bs : List Json} {r s : List Char},
    tailChars as ++ r = tailChars bs ++ s → as = bs ∧ r = s
  | [], [], r, s, h => ⟨rfl, by simpa [tailChars] using h⟩
  | [], b :: bs, r, s, h => by simp [tailChars] at h
  | a :: as, [], r, s, h => by simp [tailChars] at h
  | a :: as, b :: bs, r, s, h => by
    simp only [tailChars, List.cons_append, List.append_assoc, List.cons.injEq, true_and] at h
    obtain ⟨rfl, htail⟩ := chars_append_inj h
    obtain ⟨rfl, hrs⟩ := tailChars_append_inj htail
    exact ⟨rfl, hrs⟩

theorem object_append_inj : ∀ {ms ns : List (String × Json)} {r s : List Char},
    (object ms).chars ++ r = (object ns).chars ++ s → ms = ns ∧ r = s
  | [], [], r, s, h => ⟨rfl, by simpa [chars] using h⟩
  | [], (n, k) :: ns, r, s, h => by simp [chars, memberChars, stringText] at h
  | (m, j) :: ms, [], r, s, h => by simp [chars, memberChars, stringText] at h
  | (m, j) :: ms, (n, k) :: ns, r, s, h => by
    simp only [chars, memberChars, List.cons_append, List.append_assoc, List.cons.injEq,
      true_and] at h
    obtain ⟨rfl, hvalue⟩ := stringText_append_inj h
    obtain ⟨rfl, hrest⟩ := chars_append_inj (List.cons.inj hvalue).2
    obtain ⟨rfl, hrs⟩ := restChars_append_inj hrest
    exact ⟨rfl, hrs⟩

theorem restChars_append_inj : ∀ {ms ns : List (String × Json)} {r s : List Char},
    restChars ms ++ r = restChars ns ++ s → ms = ns ∧ r = s
  | [], [], r, s, h => ⟨rfl, by simpa [restChars] using h⟩
  | [], (n, k) :: ns, r, s, h => by simp [restChars] at h
  | (m, j) :: ms, [], r, s, h => by simp [restChars] at h
  | (m, j) :: ms, (n, k) :: ns, r, s, h => by
    simp only [restChars, memberChars, List.cons_append, List.append_assoc, List.cons.injEq,
      true_and] at h
    obtain ⟨rfl, hvalue⟩ := stringText_append_inj h
    obtain ⟨rfl, hrest⟩ := chars_append_inj (List.cons.inj hvalue).2
    obtain ⟨rfl, hrs⟩ := restChars_append_inj hrest
    exact ⟨rfl, hrs⟩

end

/-- Values with one text were given alike. -/
theorem text_inj {j k : Json} : j.text = k.text ↔ j = k := by
  constructor
  · intro h
    have hchars : j.chars ++ [] = k.chars ++ [] := by rw [String.ofList_inj.mp h]
    exact (chars_append_inj hchars).1
  · intro h
    rw [h]

/-! ## Equal values -/

mutual

/-- The same value, in whatever order the members of objects are given. -/
def Equal : Json → Json → Prop
  | .string a, .string b => a = b
  | .array as, .array bs => EqualItems as bs
  | .object ms, .object ns => ∃ ls : List (String × Json), ls.Perm ns ∧ EqualMembers ms ls
  | _, _ => False

def EqualItems : List Json → List Json → Prop
  | [], [] => True
  | j :: js, k :: ks => Equal j k ∧ EqualItems js ks
  | _, _ => False

def EqualMembers : List (String × Json) → List (String × Json) → Prop
  | [], [] => True
  | (m, j) :: ms, (n, k) :: ns => m = n ∧ Equal j k ∧ EqualMembers ms ns
  | _, _ => False

end

mutual

theorem equal_refl : ∀ j : Json, j.Equal j
  | .string _ => rfl
  | .array js => equalItems_refl js
  | .object ms => ⟨ms, .refl ms, equalMembers_refl ms⟩

theorem equalItems_refl : ∀ js : List Json, EqualItems js js
  | [] => trivial
  | j :: js => ⟨equal_refl j, equalItems_refl js⟩

theorem equalMembers_refl : ∀ ms : List (String × Json), EqualMembers ms ms
  | [] => trivial
  | (_, j) :: ms => ⟨rfl, equal_refl j, equalMembers_refl ms⟩

end

theorem EqualMembers.names : ∀ {ms ns : List (String × Json)}, EqualMembers ms ns →
    ms.map Prod.fst = ns.map Prod.fst
  | [], [], _ => rfl
  | [], _ :: _, h => h.elim
  | _ :: _, [], h => h.elim
  | (_, _) :: _, (_, _) :: _, h => by rw [List.map_cons, List.map_cons, h.1, h.2.2.names]

/-- Members of different names are in the same order when their names are. -/
theorem eq_of_names {ms ns : List (String × Json)} (h : ms.Perm ns)
    (hnames : ms.map Prod.fst = ns.map Prod.fst) (hdistinct : (ns.map Prod.fst).Nodup) :
    ms = ns := by
  induction ms generalizing ns with
  | nil => exact h.nil_eq
  | cons m ms ih =>
    cases ns with
    | nil => exact absurd h.eq_nil (by simp)
    | cons n ns =>
      obtain ⟨hmn, hrest⟩ := List.cons.inj hnames
      obtain ⟨hn, hns⟩ := List.nodup_cons.mp hdistinct
      rcases List.mem_cons.mp (h.subset (List.mem_cons_self ..)) with rfl | hm
      · rw [ih ((List.perm_cons m).mp h) hrest hns]
      · exact absurd (List.mem_map_of_mem hm) (hmn ▸ hn)

/-- Where equal values are given alike, their texts say whether they are equal. -/
theorem text_eq_iff_of {j k : Json} {p : Prop} (hequal : j.Equal k ↔ p) (halike : p → j = k) :
    j.text = k.text ↔ p := by
  rw [text_inj]
  constructor
  · rintro rfl
    exact hequal.mp (equal_refl j)
  · exact halike

/-- Objects whose names can only be in one order are equal when their members are, one by one. -/
theorem object_equal_iff {ms ns : List (String × Json)} (hdistinct : (ns.map Prod.fst).Nodup)
    (horder : (ms.map Prod.fst).Perm (ns.map Prod.fst) → ms.map Prod.fst = ns.map Prod.fst) :
    (object ms).Equal (object ns) ↔ EqualMembers ms ns := by
  constructor
  · rintro ⟨ls, hperm, hequal⟩
    have hnames := hequal.names
    have hls : ls.map Prod.fst = ns.map Prod.fst := by
      rw [← hnames]
      exact horder (hnames ▸ hperm.map Prod.fst)
    rwa [eq_of_names hperm hls hdistinct] at hequal
  · intro hequal
    exact ⟨ns, .refl ns, hequal⟩

end Json

end QuadGraph

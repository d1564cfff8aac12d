import QuadGraph.Term.Order

/-!
# Keys tell terms apart

A key can be read back from the front. `cut` splits a text before its first space outside of
all brackets and quotes, and cuts off the whole of a key (`cut_keyChars`). So the keys of a list
of items can be told from their concatenation, and two terms have one key only when they are
the same (`Term.same_iff_key`), which is when neither comes before the other
(`Term.cmp_eq_iff_key`).
-/

namespace QuadGraph

/-! ## Bare and quoted parts -/

def readBare : List Char → List Char
  | '\\' :: 's' :: cs => ' ' :: readBare cs
  | '\\' :: 'n' :: cs => '\n' :: readBare cs
  | '\\' :: 'r' :: cs => '\r' :: readBare cs
  | '\\' :: 't' :: cs => '\t' :: readBare cs
  | '\\' :: c :: cs => c :: readBare cs
  | c :: cs => c :: readBare cs
  | [] => []

theorem readBare_bareChar (c : Char) (r : List Char) :
    readBare (bareChar c ++ r) = c :: readBare r := by
  unfold bareChar
  split
  case h_6 =>
    split
    case isTrue h =>
      simp only [List.mem_cons, List.not_mem_nil, or_false] at h
      rcases h with rfl | rfl | rfl | rfl | rfl | rfl | rfl <;> rfl
    case isFalse h₁ h₂ h₃ h₄ h₅ h =>
      rw [List.singleton_append, readBare]
      all_goals simp_all
  all_goals rfl

theorem readBare_bareText (s : String) : readBare (bareText s) = s.toList := by
  unfold bareText
  induction s.toList with
  | nil => rfl
  | cons c cs ih => rw [List.flatMap_cons, readBare_bareChar, ih]

theorem bareText_inj {a b : String} (h : bareText a = bareText b) : a = b := by
  rw [← String.toList_inj, ← readBare_bareText, h, readBare_bareText]

theorem bracketed_inj {a b : String} (h : bracketed a = bracketed b) : a = b := by
  unfold bracketed at h
  exact bareText_inj (List.append_cancel_right (List.cons.inj h).2)

def readQuoted : List Char → List Char × List Char
  | '"' :: cs => ([], cs)
  | '\\' :: 'n' :: cs => ('\n' :: (readQuoted cs).1, (readQuoted cs).2)
  | '\\' :: 'r' :: cs => ('\r' :: (readQuoted cs).1, (readQuoted cs).2)
  | '\\' :: 't' :: cs => ('\t' :: (readQuoted cs).1, (readQuoted cs).2)
  | '\\' :: c :: cs => (c :: (readQuoted cs).1, (readQuoted cs).2)
  | c :: cs => (c :: (readQuoted cs).1, (readQuoted cs).2)
  | [] => ([], [])

theorem readQuoted_quotedChar (c : Char) (r : List Char) :
    readQuoted (quotedChar c ++ r) = (c :: (readQuoted r).1, (readQuoted r).2) := by
  unfold quotedChar
  split
  case h_6 =>
    rw [List.singleton_append, readQuoted]
    all_goals simp_all
  all_goals rfl

theorem readQuoted_quotedText (s : String) (r : List Char) :
    readQuoted (quotedText s ++ '"' :: r) = (s.toList, r) := by
  unfold quotedText
  induction s.toList with
  | nil => rfl
  | cons c cs ih => rw [List.flatMap_cons, List.append_assoc, readQuoted_quotedChar, ih]

theorem quotedText_inj {a b : String} {r s : List Char}
    (h : quotedText a ++ '"' :: r = quotedText b ++ '"' :: s) : a = b ∧ r = s := by
  have h' := congrArg readQuoted h
  rw [readQuoted_quotedText, readQuoted_quotedText] at h'
  obtain ⟨hab, hrs⟩ := Prod.mk.inj h'
  exact ⟨String.toList_inj.mp hab, hrs⟩

theorem Annotation.keyChars_inj {a b : Annotation} (h : a.keyChars = b.keyChars) : a = b := by
  cases a <;> cases b <;> simp only [keyChars] at h
  case plain.plain => rfl
  case typed.typed d e => rw [bracketed_inj (List.cons.inj (List.cons.inj h).2).2]
  case tagged.tagged l m => rw [bareText_inj (List.cons.inj h).2]
  all_goals simp at h

theorem Literal.keyChars_inj {a b : Literal} (h : a.keyChars = b.keyChars) : a = b := by
  obtain ⟨v, x⟩ := a
  obtain ⟨w, y⟩ := b
  unfold Literal.keyChars at h
  obtain ⟨hv, hx⟩ := quotedText_inj (List.cons.inj h).2
  rw [Literal.mk.injEq]
  exact ⟨hv, Annotation.keyChars_inj hx⟩

/-! ## Cutting a key off -/

def isOpening (c : Char) : Bool := c = '(' || c = '{'

def isClosing (c : Char) : Bool := c = ')' || c = '}'

def push (cs : List Char) (r : List Char × List Char) : List Char × List Char := (cs ++ r.1, r.2)

/-- Splits a text before its first space outside of brackets and quotes, when it is read from
inside of so many brackets, and perhaps from inside of a quoted part. -/
def cut (depth : Nat) (quoted : Bool) : List Char → List Char × List Char
  | [] => ([], [])
  | '\\' :: c :: cs => push ['\\', c] (cut depth quoted cs)
  | c :: cs =>
    if c = '"' then push [c] (cut depth (!quoted) cs)
    else if quoted then push [c] (cut depth true cs)
    else if c = ' ' ∧ depth = 0 then ([], c :: cs)
    else if isOpening c then push [c] (cut (depth + 1) false cs)
    else if isClosing c then push [c] (cut (depth - 1) false cs)
    else push [c] (cut depth false cs)

/-- Reading the text takes `cut` from the first depth and mode to the second. -/
def Leads (d : Nat) (q : Bool) (cs : List Char) (d' : Nat) (q' : Bool) : Prop :=
  ∀ r, cut d q (cs ++ r) = push cs (cut d' q' r)

theorem Leads.nil (d : Nat) (q : Bool) : Leads d q [] d q := fun _ => rfl

theorem Leads.append {d₁ d₂ d₃ : Nat} {q₁ q₂ q₃ : Bool} {as bs : List Char}
    (ha : Leads d₁ q₁ as d₂ q₂) (hb : Leads d₂ q₂ bs d₃ q₃) : Leads d₁ q₁ (as ++ bs) d₃ q₃ := by
  intro r
  rw [List.append_assoc, ha, hb]
  simp [push]

theorem Leads.cons {d₁ d₂ d₃ : Nat} {q₁ q₂ q₃ : Bool} {c : Char} {cs : List Char}
    (hc : Leads d₁ q₁ [c] d₂ q₂) (hcs : Leads d₂ q₂ cs d₃ q₃) : Leads d₁ q₁ (c :: cs) d₃ q₃ :=
  hc.append hcs

theorem Leads.flatMap {α : Type} {d : Nat} {q : Bool} {f : α → List Char} {xs : List α}
    (h : ∀ x ∈ xs, Leads d q (f x) d q) : Leads d q (xs.flatMap f) d q := by
  induction xs with
  | nil => exact .nil d q
  | cons x xs ih =>
    rw [List.flatMap_cons]
    exact (h x (by simp)).append (ih fun y hy => h y (by simp [hy]))

theorem leads_quote (d : Nat) (q : Bool) : Leads d q ['"'] d (!q) := by
  intro r; simp [cut]

theorem leads_space (d : Nat) : Leads (d + 1) false [' '] (d + 1) false := by
  intro r; simp [cut, isOpening, isClosing]

theorem leads_opening (d : Nat) {c : Char} (h : isOpening c = true) :
    Leads d false [c] (d + 1) false := by
  intro r
  have hc : c = '(' ∨ c = '{' := by simpa [isOpening] using h
  rcases hc with rfl | rfl <;> simp [cut, isOpening]

theorem leads_closing (d : Nat) {c : Char} (h : isClosing c = true) :
    Leads (d + 1) false [c] d false := by
  intro r
  have hc : c = ')' ∨ c = '}' := by simpa [isClosing] using h
  rcases hc with rfl | rfl <;> simp [cut, isOpening, isClosing]

theorem leads_escaped (d : Nat) (q : Bool) (c : Char) : Leads d q ['\\', c] d q := by
  intro r; simp [cut]

/-- No character of its own to `cut`: it may stand anywhere without an escape. -/
def isOrdinary (c : Char) : Bool :=
  !(c = '\\' || c = '"' || c = ' ' || isOpening c || isClosing c)

theorem leads_ordinary (d : Nat) {c : Char} (h : isOrdinary c = true) :
    Leads d false [c] d false := by
  intro r
  simp only [isOrdinary, Bool.not_eq_true', Bool.or_eq_false_iff, decide_eq_false_iff_not] at h
  obtain ⟨⟨⟨⟨h₁, h₂⟩, h₃⟩, h₄⟩, h₅⟩ := h
  rw [List.singleton_append, cut]
  · simp [h₂, h₃, h₄, h₅]
  · intro c' cs' hc; exact absurd hc h₁

theorem leads_bareChar (d : Nat) (c : Char) : Leads d false (bareChar c) d false := by
  unfold bareChar
  split
  case h_6 =>
    split
    · exact leads_escaped d false c
    · refine leads_ordinary d ?_
      simp_all [isOrdinary, isOpening, isClosing]
  all_goals exact leads_escaped d false _

theorem leads_quotedChar (d : Nat) (c : Char) : Leads d true (quotedChar c) d true := by
  unfold quotedChar
  split
  case h_6 =>
    intro r
    rw [List.singleton_append, cut] <;> simp_all
  all_goals exact leads_escaped d true _

theorem leads_bareText (d : Nat) (s : String) : Leads d false (bareText s) d false :=
  .flatMap fun c _ => leads_bareChar d c

theorem leads_quotedText (d : Nat) (s : String) : Leads d true (quotedText s) d true :=
  .flatMap fun c _ => leads_quotedChar d c

theorem leads_bracketed (d : Nat) (s : String) : Leads d false (bracketed s) d false :=
  (leads_ordinary d rfl).cons ((leads_bareText d s).append (leads_ordinary d rfl))

theorem Annotation.leads_keyChars (d : Nat) (a : Annotation) :
    Leads d false a.keyChars d false := by
  cases a with
  | plain => exact .nil d false
  | typed datatype =>
    exact (leads_ordinary d rfl).cons ((leads_ordinary d rfl).cons (leads_bracketed d datatype))
  | tagged language => exact (leads_ordinary d rfl).cons (leads_bareText d language)

theorem Literal.leads_keyChars (d : Nat) (l : Literal) : Leads d false l.keyChars d false :=
  (leads_quote d false).cons
    ((leads_quotedText d l.value).append
      ((leads_quote d true).cons (l.annotation.leads_keyChars d)))

namespace Term

mutual

/-- Brackets and quotes are balanced in a key, and its spaces are all inside of brackets. -/
theorem leads_keyChars (d : Nat) : ∀ t : Term, Leads d false t.keyChars d false
  | .named iri => leads_bracketed d iri
  | .blank label =>
    (leads_ordinary d rfl).cons ((leads_ordinary d rfl).cons (leads_bareText d label))
  | .literal l => l.leads_keyChars d
  | .collection items =>
    (leads_opening d rfl).cons
      ((leads_itemsChars d items).append ((leads_space d).cons (leads_closing d rfl)))
  | .var name => (leads_ordinary d rfl).cons (leads_bareText d name)
  | .formula quads =>
    (leads_opening d rfl).cons
      (Leads.append (.flatMap fun k hk => (leads_space d).cons
        (leads_quadsChars d quads k (List.mem_mergeSort.mp hk)))
        ((leads_space d).cons (leads_closing d rfl)))

theorem leads_itemsChars (d : Nat) : ∀ ts : List Term, Leads (d + 1) false (itemsChars ts) (d + 1) false
  | [] => .nil (d + 1) false
  | t :: ts => (leads_space d).cons ((leads_keyChars (d + 1) t).append (leads_itemsChars d ts))

theorem leads_quadChars (d : Nat) : ∀ q : Quad Term, Leads (d + 1) false (quadChars q) (d + 1) false
  | ⟨s, p, o, c⟩ =>
    (leads_keyChars (d + 1) s).append ((leads_space d).cons
      ((leads_keyChars (d + 1) p).append ((leads_space d).cons
        ((leads_keyChars (d + 1) o).append ((leads_space d).cons
          ((leads_keyChars (d + 1) c).append ((leads_space d).cons (leads_ordinary (d + 1) rfl))))))))

theorem leads_quadsChars (d : Nat) : ∀ qs : List (Quad Term), ∀ k ∈ quadsChars qs,
    Leads (d + 1) false k (d + 1) false
  | [], k, hk => absurd hk (List.not_mem_nil)
  | q :: qs, k, hk => by
    rcases List.mem_cons.mp hk with rfl | hk
    · exact leads_quadChars d q
    · exact leads_quadsChars d qs k hk

end

/-- A key is cut off whole. -/
theorem cut_keyChars (t : Term) (r : List Char) :
    cut 0 false (t.keyChars ++ ' ' :: r) = (t.keyChars, ' ' :: r) := by
  rw [t.leads_keyChars 0]
  simp [push, cut]

theorem keyChars_append_inj {a b : Term} {r s : List Char}
    (h : a.keyChars ++ ' ' :: r = b.keyChars ++ ' ' :: s) : a.keyChars = b.keyChars ∧ r = s := by
  have h' := congrArg (cut 0 false) h
  rw [cut_keyChars, cut_keyChars] at h'
  obtain ⟨hab, hrs⟩ := Prod.mk.inj h'
  exact ⟨hab, (List.cons.inj hrs).2⟩

end Term

/-! ## Equal keys -/

def Kind.initial : Kind → Char
  | .named => '<'
  | .blank => '_'
  | .literal => '"'
  | .collection => '('
  | .var => '?'
  | .formula => '\x7b'

theorem Kind.initial_ne_closing (k : Kind) : k.initial ≠ ')' := by
  cases k <;> decide

theorem Kind.initial_inj {k l : Kind} (h : k.initial = l.initial) : k = l := by
  cases k <;> cases l <;> first | rfl | exact absurd h (by decide)

namespace Term

theorem keyChars_head (t : Term) : ∃ r, t.keyChars = t.kind.initial :: r := by
  cases t <;> exact ⟨_, rfl⟩

theorem kind_of_keyChars {a b : Term} (h : a.keyChars = b.keyChars) : a.kind = b.kind := by
  obtain ⟨r, hr⟩ := keyChars_head a
  obtain ⟨s, hs⟩ := keyChars_head b
  rw [hr, hs] at h
  exact Kind.initial_inj (List.cons.inj h).1

theorem itemsChars_inj {as bs : List Term} {r s : List Char}
    (h : itemsChars as ++ ' ' :: ')' :: r = itemsChars bs ++ ' ' :: ')' :: s) :
    as.map keyChars = bs.map keyChars := by
  -- both sides start with a space wherever the lists are cut
  have hspace : ∀ (ts : List Term) (r : List Char),
      ∃ x, itemsChars ts ++ ' ' :: ')' :: r = ' ' :: x := by
    intro ts r
    cases ts <;> exact ⟨_, rfl⟩
  induction as generalizing bs with
  | nil =>
    cases bs with
    | nil => rfl
    | cons b bs =>
      obtain ⟨x, hx⟩ := keyChars_head b
      simp only [itemsChars, hx, List.nil_append, List.cons_append, List.cons.injEq, true_and] at h
      exact absurd h.1.symm (Kind.initial_ne_closing b.kind)
  | cons a as ih =>
    cases bs with
    | nil =>
      obtain ⟨x, hx⟩ := keyChars_head a
      simp only [itemsChars, hx, List.nil_append, List.cons_append, List.cons.injEq, true_and] at h
      exact absurd h.1 (Kind.initial_ne_closing a.kind)
    | cons b bs =>
      simp only [itemsChars, List.cons_append, List.append_assoc, List.cons.injEq, true_and] at h
      obtain ⟨x, hx⟩ := hspace as r
      obtain ⟨y, hy⟩ := hspace bs s
      rw [hx, hy] at h
      obtain ⟨hab, hxy⟩ := keyChars_append_inj h
      rw [List.map_cons, List.map_cons, hab, ih (hx.trans ((congrArg _ hxy).trans hy.symm))]

theorem itemsChars_congr {as bs : List Term} (h : as.map keyChars = bs.map keyChars) :
    itemsChars as = itemsChars bs := by
  induction as generalizing bs with
  | nil =>
    cases bs with
    | nil => rfl
    | cons b bs => simp at h
  | cons a as ih =>
    cases bs with
    | nil => simp at h
    | cons b bs =>
      obtain ⟨hab, hs⟩ := List.cons.inj h
      rw [itemsChars, itemsChars, hab, ih hs]

/-- Two collections have one key when their items do, one by one. -/
theorem keyChars_collection {as bs : List Term} :
    (collection as).keyChars = (collection bs).keyChars ↔ as.map keyChars = bs.map keyChars := by
  constructor
  · intro h
    exact itemsChars_inj (List.cons.inj h).2
  · intro h
    simp only [keyChars, itemsChars_congr h]

theorem key_eq_iff {a b : Term} : a.key = b.key ↔ a.keyChars = b.keyChars := by
  unfold key; exact String.ofList_inj

mutual

theorem same_iff_keyChars : ∀ a b : Term, a.same b = true ↔ a.keyChars = b.keyChars
  | .named a, b => by
    cases b with
    | named b =>
      simp only [same, beq_iff_eq]
      exact ⟨fun h => by rw [h], fun h => bracketed_inj h⟩
    | _ => exact ⟨fun h => by simp [same] at h, fun h => by simpa [kind] using kind_of_keyChars h⟩
  | .blank a, b => by
    cases b with
    | blank b =>
      simp only [same, beq_iff_eq]
      exact ⟨fun h => by rw [h], fun h => bareText_inj (List.cons.inj (List.cons.inj h).2).2⟩
    | _ => exact ⟨fun h => by simp [same] at h, fun h => by simpa [kind] using kind_of_keyChars h⟩
  | .var a, b => by
    cases b with
    | var b =>
      simp only [same, beq_iff_eq]
      exact ⟨fun h => by rw [h], fun h => bareText_inj (List.cons.inj h).2⟩
    | _ => exact ⟨fun h => by simp [same] at h, fun h => by simpa [kind] using kind_of_keyChars h⟩
  | .literal a, b => by
    cases b with
    | literal b =>
      simp only [same, beq_iff_eq]
      exact ⟨fun h => by rw [h], fun h => Literal.keyChars_inj h⟩
    | _ => exact ⟨fun h => by simp [same] at h, fun h => by simpa [kind] using kind_of_keyChars h⟩
  | .collection as, b => by
    cases b with
    | collection bs =>
      rw [same, keyChars_collection]
      exact sameItems_iff_keyChars as bs
    | _ => exact ⟨fun h => by simp [same] at h, fun h => by simpa [kind] using kind_of_keyChars h⟩
  | .formula as, b => by
    cases b with
    | formula bs =>
      simp only [same, beq_iff_eq]
      exact key_eq_iff
    | _ => exact ⟨fun h => by simp [same] at h, fun h => by simpa [kind] using kind_of_keyChars h⟩

theorem sameItems_iff_keyChars : ∀ as bs : List Term,
    sameItems as bs = true ↔ as.map keyChars = bs.map keyChars
  | [], [] => by simp [sameItems]
  | [], _ :: _ => by simp [sameItems]
  | _ :: _, [] => by simp [sameItems]
  | a :: as, b :: bs => by
    rw [sameItems, Bool.and_eq_true, same_iff_keyChars a b, sameItems_iff_keyChars as bs,
      List.map_cons, List.map_cons, List.cons.injEq]

end

theorem same_iff_key {a b : Term} : a.same b = true ↔ a.key = b.key :=
  (same_iff_keyChars a b).trans key_eq_iff.symm

end Term

/-! ## The order -/

theorem Literal.cmp_eq_iff {a b : Literal} : a.cmp b = .eq ↔ a = b := by
  obtain ⟨v, x⟩ := a
  obtain ⟨w, y⟩ := b
  simp only [Literal.cmp, Ordering.then_eq_eq, Std.LawfulEqOrd.compare_eq_iff_eq, Literal.mk.injEq]
  refine and_congr_right fun _ => ?_
  cases x <;> cases y <;> simp [Literal.language?, Literal.datatype?]

namespace Term

mutual

theorem cmp_eq_iff_same : ∀ a b : Term, a.cmp b = .eq ↔ a.same b = true
  | .named a, b => by cases b <;> simp [cmp, same, kind, Kind.rank]
  | .blank a, b => by cases b <;> simp [cmp, same, kind, Kind.rank]
  | .var a, b => by cases b <;> simp [cmp, same, kind, Kind.rank]
  | .literal a, b => by cases b <;> simp [cmp, same, kind, Kind.rank, Literal.cmp_eq_iff]
  | .collection as, b => by
    cases b with
    | collection bs => rw [cmp, same]; exact cmpItems_eq_iff_same as bs
    | _ => simp [cmp, same, kind, Kind.rank]
  | .formula as, b => by cases b <;> simp [cmp, same, kind, Kind.rank]

theorem cmpItems_eq_iff_same : ∀ as bs : List Term,
    cmpItems as bs = .eq ↔ sameItems as bs = true
  | [], [] => by simp [cmpItems, sameItems]
  | [], _ :: _ => by simp [cmpItems, sameItems]
  | _ :: _, [] => by simp [cmpItems, sameItems]
  | a :: as, b :: bs => by
    rw [cmpItems, sameItems, Ordering.then_eq_eq, Bool.and_eq_true, cmp_eq_iff_same a b,
      cmpItems_eq_iff_same as bs]

end

theorem cmp_eq_iff_key {a b : Term} : a.cmp b = .eq ↔ a.key = b.key :=
  (cmp_eq_iff_same a b).trans same_iff_key

end Term

end QuadGraph

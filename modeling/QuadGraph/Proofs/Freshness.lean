import Mathlib.Data.List.Induction
import Mathlib.Logic.Function.Iterate
import QuadGraph.Proofs.Registrations
import QuadGraph.Proofs.Representatives

/-!
# Fresh blank nodes

A store makes blank nodes by number, so it never makes one twice. It does not look whether somebody
else has named the node that comes next. Whoever may name blank nodes must therefore leave those alone
that are yet to be made (`Change.Orderly`); then a new node is in no statement, at whatever depth, and
was never merged (`Reachable.fresh_unmentioned`). If a node is named too early, the store makes it all
the same when its number comes up, and it is no new node then.
-/

namespace QuadGraph

def StoreOptions.label (o : StoreOptions) (k : Nat) : String := o.blankPrefix ++ toString k

theorem StoreOptions.label_inj {o : StoreOptions} {j k : Nat} (h : o.label j = o.label k) : j = k := by
  have hread : ∀ n : Nat, Nat.ofDigitChars 10 (toString n).toList 0 = n := by
    intro n
    simp
  have hnumeral : (toString j).toList = (toString k).toList := by
    simpa [label] using congrArg String.toList h
  rw [← hread j, hnumeral, hread]

/-! ## Where a term occurs -/

/-- The first term is the second one or occurs in it: as an item or quoted, at whatever depth. -/
inductive Term.Within (u : Term) : Term → Prop
  | self : Within u u
  | item {items : List Term} {t : Term} (ht : t ∈ items) (h : Within u t) :
    Within u (.collection items)
  | quoted {quads : List (Quad Term)} {q : Quad Term} {p : Position} (hq : q ∈ quads)
    (h : Within u (q.get p)) : Within u (.formula quads)

def Graph.Merged (g : Graph) (t : Term) : Prop :=
  (∃ key : String, g.equivalence.redirections[key]? = some t) ∨
    ∃ key, t ∈ g.equivalence.aliases key

def Graph.Mentions (g : Graph) (label : String) : Prop :=
  (∃ e ∈ g.entries, ∃ p, (Term.blank label).Within (e.statement.get p)) ∨
    ∃ t, g.Merged t ∧ (Term.blank label).Within t

namespace Change

def Names (label : String) : Change → Prop
  | .insert st => ∃ p, (Term.blank label).Within (st.get p)
  | .equate a b => (Term.blank label).Within a ∨ (Term.blank label).Within b
  | _ => False

def Named (label : String) (cs : List Change) : Prop := ∃ c ∈ cs, c.Names label

def isFresh : Change → Bool
  | .fresh => true
  | _ => false

def made (cs : List Change) : Nat := cs.countP isFresh

/-- The first to name a blank node that the store makes is never ahead of the store. -/
def Orderly (o : StoreOptions) (cs : List Change) : Prop :=
  ∀ past c rest, cs = past ++ c :: rest → ∀ k, c.Names (o.label k) →
    Named (o.label k) past ∨ k ≤ made past

variable {o : StoreOptions} {c : Change} {cs ds : List Change} {label : String} {k : Nat}

theorem named_append : Named label (cs ++ ds) ↔ Named label cs ∨ Named label ds := by
  simp only [Named, List.mem_append, or_and_right, exists_or]

theorem named_singleton : Named label [c] ↔ c.Names label := by
  simp only [Named, List.mem_singleton, exists_eq_left]

theorem made_append : made (cs ++ ds) = made cs + made ds := List.countP_append

theorem made_pos (h : Change.fresh ∈ cs) : 0 < made cs := List.countP_pos_iff.mpr ⟨_, h, rfl⟩

theorem orderly_nil : Orderly o [] := by
  intro past c rest h
  simp at h

theorem orderly_concat : Orderly o (cs ++ [c]) ↔
    Orderly o cs ∧ ∀ k, c.Names (o.label k) → Named (o.label k) cs ∨ k ≤ made cs := by
  constructor
  · intro h
    refine ⟨?_, h cs c [] rfl⟩
    rintro past d rest rfl
    exact h past d (rest ++ [c]) (by simp)
  · rintro ⟨hcs, hc⟩ past d rest h
    rcases List.eq_nil_or_concat' rest with rfl | ⟨rest, e, rfl⟩
    · obtain ⟨rfl, hcd⟩ := List.append_inj' h rfl
      obtain rfl : c = d := by simpa using hcd
      exact hc
    · rw [← List.cons_append, ← List.append_assoc] at h
      exact hcs past d rest (List.append_inj' h rfl).1

theorem Orderly.le_made (h : Orderly o cs) (hnamed : Named (o.label k) cs) : k ≤ made cs := by
  -- from the last change back, for what came before a change decides whether it is in order
  induction cs using List.reverseRecOn with
  | nil =>
    obtain ⟨c, hc, -⟩ := hnamed
    cases hc
  | append_singleton cs c ih =>
    obtain ⟨hcs, hc⟩ := orderly_concat.mp h
    have hle : Named (o.label k) cs ∨ k ≤ made cs := by
      rcases named_append.mp hnamed with hbefore | hnow
      · exact .inl hbefore
      · exact hc k (named_singleton.mp hnow)
    rw [made_append]
    rcases hle with hbefore | hle
    · have hmade := ih hcs hbefore
      omega
    · omega

end Change

/-! ## What a change lets a graph mention -/

theorem Graph.canon_merged {g : Graph} (h : g.WellFormed) (t : Term) :
    g.canon t = t ∨ g.Merged (g.canon t) := by
  unfold canon
  rw [h.flat.find_eq]
  cases hr : g.equivalence.redirections[t.key]? with
  | none => exact .inl rfl
  | some r => exact .inr (.inl ⟨t.key, hr⟩)

theorem Graph.merged_redirect {g : Graph} {big small t : Term} (h : (g.redirect big small).Merged t) :
    g.Merged t ∨ t = big ∨ t = small := by
  rcases h with ⟨key, hkey⟩ | ⟨key, hkey⟩
  · change (g.equivalence.union big small).redirections[key]? = some t at hkey
    rw [Equivalence.getElem?_union] at hkey
    split at hkey
    case isTrue => exact .inr (.inr (Option.some.inj hkey).symm)
    case isFalse => exact .inl (.inl ⟨key, hkey⟩)
  · change t ∈ (g.equivalence.union big small).aliases key at hkey
    rw [Equivalence.aliases_union] at hkey
    have hmembers : ∀ {k}, t ∈ g.equivalence.aliases k → g.Merged t := fun h => .inr ⟨_, h⟩
    split at hkey
    case isTrue =>
      rcases List.mem_append.mp hkey with hsmall | hbig
      · split at hsmall
        case isTrue => cases hsmall
        case isFalse => exact .inl (hmembers hsmall)
      · rcases List.mem_cons.mp hbig with rfl | hbig
        · exact .inr (.inl rfl)
        · exact .inl (hmembers hbig)
    case isFalse =>
      split at hkey
      case isTrue => cases hkey
      case isFalse => exact .inl (hmembers hkey)

namespace Store

variable {s t : Store} {cs : List Change} {label : String}

theorem merged_equate (hwf : s.graph.WellFormed) {a b u : Term}
    (h : (s.equate a b).graph.Merged u) :
    s.graph.Merged u ∨ u = a ∨ u = b := by
  unfold equate at h
  split at h
  case h_1 => exact .inl h
  case h_2 big small hmerge =>
    have hends : ∀ {x}, x = s.graph.canon a ∨ x = s.graph.canon b →
        s.graph.Merged x ∨ x = a ∨ x = b := by
      rintro x (rfl | rfl)
      · exact (Graph.canon_merged hwf a).elim (fun h => .inr (.inl h)) .inl
      · exact (Graph.canon_merged hwf b).elim (fun h => .inr (.inr h)) .inl
    rcases Graph.merged_redirect h with hu | rfl | rfl
    · exact .inl hu
    · rcases mergeOrder?_mem hmerge with ⟨hbig, -⟩ | ⟨hbig, -⟩
      · exact hends (.inl hbig)
      · exact hends (.inr hbig)
    · rcases mergeOrder?_mem hmerge with ⟨-, hsmall⟩ | ⟨-, hsmall⟩
      · exact hends (.inr hsmall)
      · exact hends (.inl hsmall)

/-- Nothing is mentioned that was not before, unless the change names it. -/
theorem mentions_change (hwf : s.graph.WellFormed) {c : Change}
    (h : (s.change c).graph.Mentions label) : s.graph.Mentions label ∨ c.Names label := by
  cases c with
  | insert st =>
    rcases h with ⟨e, he, hwithin⟩ | hmerged
    · rcases List.mem_append.mp he with he | he
      · exact .inl (.inl ⟨e, he, hwithin⟩)
      · obtain rfl := List.mem_singleton.mp he
        exact .inr hwithin
    · exact .inl (.inr hmerged)
  | drop e =>
    rcases h with ⟨x, hx, hwithin⟩ | hmerged
    · exact .inl (.inl ⟨x, List.mem_of_mem_eraseP hx, hwithin⟩)
    · exact .inl (.inr hmerged)
  | equate a b =>
    change (s.equate a b).graph.Mentions label at h
    rcases h with hentry | ⟨u, hu, hwithin⟩
    · rw [entries_equate] at hentry
      exact .inl (.inl hentry)
    · rcases merged_equate hwf hu with hu | rfl | rfl
      · exact .inl (.inr ⟨u, hu, hwithin⟩)
      · exact .inr (.inl hwithin)
      · exact .inr (.inr hwithin)
  | onProperty predicate a => exact .inl h
  | onClass type a => exact .inl h
  | fresh => exact .inl h
  | note label st => exact .inl h

theorem Evolves.mentions (he : s.Evolves cs t) (hwf : s.graph.WellFormed)
    (h : t.graph.Mentions label) : s.graph.Mentions label ∨ Change.Named label cs := by
  induction he with
  | nil s => exact .inl h
  | @cons s t c cs hc _ ih =>
    rcases ih (wellFormed_change hwf hc) h with hmentions | ⟨d, hd, hnames⟩
    · rcases mentions_change hwf hmentions with hmentions | hnames
      · exact .inl hmentions
      · exact .inr ⟨c, List.mem_cons_self, hnames⟩
    · exact .inr ⟨d, List.mem_cons_of_mem c hd, hnames⟩

theorem not_mentions_ofOptions (options : StoreOptions) (label : String) :
    ¬ (ofOptions options).graph.Mentions label := by
  rintro (⟨e, he, -⟩ | ⟨t, ⟨key, hkey⟩ | ⟨key, hkey⟩, -⟩)
  · cases he
  · simp [ofOptions] at hkey
  · simp [ofOptions, Equivalence.aliases] at hkey

/-! ## The nodes that a store makes -/

theorem blanks_change (s : Store) (c : Change) :
    (s.change c).blanks = s.blanks + if c.isFresh then 1 else 0 := by
  cases c with
  | equate a b =>
    change (s.equate a b).blanks = s.blanks
    unfold equate
    split <;> rfl
  | _ => rfl

theorem Evolves.blanks (he : s.Evolves cs t) : t.blanks = s.blanks + Change.made cs := by
  induction he with
  | nil s => rfl
  | cons _ _ ih =>
    rw [ih, blanks_change, Change.made, Change.made, List.countP_cons]
    omega

theorem fresh_fst (s : Store) : s.fresh.1 = .blank (s.options.label (s.blanks + 1)) := rfl

theorem Evolves.fresh_ne (he : s.Evolves cs t) (h : .fresh ∈ cs) : s.fresh.1 ≠ t.fresh.1 := by
  rw [fresh_fst, fresh_fst, he.options, he.blanks]
  intro hsame
  have hnumber := StoreOptions.label_inj (Term.blank.inj hsame)
  have hpos := Change.made_pos h
  omega

def later (s : Store) (n : Nat) : Term := ((fun t : Store => t.fresh.2)^[n] s).fresh.1

theorem later_eq (s : Store) (n : Nat) : s.later n = .blank (s.options.label (s.blanks + n + 1)) := by
  induction n generalizing s with
  | zero => rfl
  | succ n ih =>
    have hnext : s.later (n + 1) = s.fresh.2.later n := rfl
    rw [hnext, ih]
    change Term.blank (s.options.label (s.blanks + 1 + n + 1)) = _
    rw [Nat.add_right_comm s.blanks 1 n, Nat.add_assoc s.blanks n 1]

/-- A node is never made twice. If every label of the store's own making was first named when its
node had been made, by callers and by actions, then the next node is none that a statement or a merge
ever had in it, at whatever depth. All nodes yet to be made are so just when no label of theirs was
named already. -/
theorem Reachable.fresh_unmentioned (h : s.Reachable) :
    (∃ es, s.History es) ∧ ∀ es, s.History es →
      (∀ (t : Store) cs, t.Evolves cs s → .fresh ∈ cs → t.fresh.1 ≠ s.fresh.1) ∧
      (Change.Orderly s.options (Event.changes es) → ∀ label, s.fresh.1 = .blank label →
        ¬ Change.Named label (Event.changes es) ∧ ¬ s.graph.Mentions label) ∧
      ((∀ n label, s.later n = .blank label → ¬ Change.Named label (Event.changes es)) ↔
        ∀ k, Change.Named (s.options.label k) (Event.changes es) →
          k ≤ Change.made (Event.changes es)) := by
  refine ⟨reachable_iff_history.mp h, fun es hes => ?_⟩
  obtain ⟨options, he⟩ := hes.evolves
  have hblanks : s.blanks = Change.made (Event.changes es) := he.blanks.trans (Nat.zero_add _)
  refine ⟨fun t cs ht hfresh => ht.fresh_ne hfresh, fun horderly label hlabel => ?_, ?_, ?_⟩
  · obtain rfl : s.options.label (s.blanks + 1) = label := Term.blank.inj hlabel
    have hunnamed : ¬ Change.Named (s.options.label (s.blanks + 1)) (Event.changes es) := by
      intro hnamed
      have hle := horderly.le_made hnamed
      omega
    refine ⟨hunnamed, fun hmentions => ?_⟩
    exact (he.mentions Graph.wellFormed_empty hmentions).elim (not_mentions_ofOptions options _) hunnamed
  · intro hnew k hnamed
    by_contra hahead
    have hk : s.blanks + (k - s.blanks - 1) + 1 = k := by omega
    have hlater := s.later_eq (k - s.blanks - 1)
    rw [hk] at hlater
    exact hnew _ _ hlater hnamed
  · rintro hle n label hlabel hnamed
    rw [later_eq] at hlabel
    obtain rfl := Term.blank.inj hlabel
    have hmade := hle _ hnamed
    omega

theorem fresh_unmentioned_after_equate :
    let s := bare.fresh.2.equate (.collection [.blank "n1"]) (.named "a")
    let es : List Event :=
      [.changed .fresh, .changed (.equate (.collection [.blank "n1"]) (.named "a"))]
    s.Reachable ∧ s.History es ∧ Change.Orderly s.options (Event.changes es) ∧
      s.fresh.1 = .blank "n2" ∧ ¬ s.graph.Mentions "n2" ∧ bare.fresh.1 ≠ s.fresh.1 := by
  intro s es
  have hstart : bare.History [] := .start { builtinActions := false }
  have hs : s.History es := (hstart.after 0 .fresh rfl).after 0 (.equate _ _) rfl
  have hreach : s.Reachable := reachable_iff_history.mpr ⟨_, hs⟩
  have hchanges : bare.Evolves [.fresh, .equate (.collection [.blank "n1"]) (.named "a")] s :=
    .cons (c := .fresh) trivial (.single (c := .equate _ _) trivial)
  have hone : bare.options.label 1 = "n1" := by decide +kernel
  have htwo : bare.options.label 2 = "n2" := by decide +kernel
  have hfresh : s.fresh.1 = .blank "n2" := by
    rw [fresh_fst, hchanges.options, hchanges.blanks, ← htwo]
    rfl
  have horderly : Change.Orderly s.options
      ([] ++ [.fresh] ++ [.equate (.collection [.blank "n1"]) (.named "a")]) := by
    refine Change.orderly_concat.mpr ⟨Change.orderly_concat.mpr ⟨Change.orderly_nil, ?_⟩, ?_⟩
    · rintro k ⟨⟩
    · rintro k (hwithin | hwithin)
      · have hlabel : s.options.label k = "n1" := by
          generalize s.options.label k = label at hwithin ⊢
          obtain ⟨⟩ | ⟨hitem, hwithin⟩ := hwithin
          obtain rfl := List.mem_singleton.mp hitem
          cases hwithin
          rfl
        rw [hchanges.options, ← hone] at hlabel
        exact .inr (StoreOptions.label_inj hlabel).le
      · cases hwithin
  obtain ⟨hne, hnew, -⟩ := hreach.fresh_unmentioned.2 es hs
  exact ⟨hreach, hs, horderly, hfresh, (hnew horderly "n2" hfresh).2, hne _ _ hchanges (by simp)⟩

/-- Where somebody has named the first node of a store, the store makes it nevertheless: the node is
then in a statement, or means what it was merged with. -/
theorem fresh_mentioned :
    let st : Statement := ⟨.blank "n1", .named "p", .named "x", .named "g"⟩
    let s := ofStatement st
    let t := bare.equate (.blank "n1") (.named "a")
    (s.Reachable ∧ s.fresh.1 = .blank "n1" ∧ st ∈ s.graph.statements ∧ s.graph.Mentions "n1") ∧
      t.Reachable ∧ t.fresh.1 = .blank "n1" ∧ (t.graph.canon t.fresh.1).iri? = some "a" := by
  intro st s t
  have hs : s.Reachable := reachable_ofStatement st
  have ht : t.Reachable := .equate (.start { builtinActions := false }) _ _
  have hentry : (⟨0, st⟩ : Entry) ∈ s.graph.entries := List.mem_singleton_self _
  have hone : bare.options.label 1 = "n1" := by decide +kernel
  have hs' : s.fresh.1 = .blank "n1" := congrArg Term.blank hone
  have ht' : t.fresh.1 = .blank "n1" := by
    have hchange : bare.Evolves [.equate (.blank "n1") (.named "a")] t := .single trivial
    rw [fresh_fst, hchange.options, hchange.blanks, ← hone]
    rfl
  refine ⟨⟨hs, hs', List.mem_singleton_self st, .inl ⟨_, hentry, .subject, .self⟩⟩, ht, ht', ?_⟩
  rw [ht']
  decide +kernel

end Store

end QuadGraph

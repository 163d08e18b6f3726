import LogSteward.Proofs.Connection.Contents
import LogSteward.Proofs.Connection.Walks

/-!
# Trees that cannot be told apart by paths

Two trees in which the same names lead to trees that are alike again (`Similarity`) take the same
steps on every path, so that paths end in the same way in both (`Similarity.follow`).  This is so of
well-formed trees whose directories have the same entries in different orders
(`Reordered.similarity`).
-/

namespace LogSteward.FileTree

/-! ### Trees that are alike -/

/-- Of two trees that are alike, both are directories, in which the same names lead to trees that
are alike, or both are the same link, or neither is a directory or a link. -/
structure Similarity (R : FileTree → FileTree → Prop) : Prop where
  inside : ∀ {es : List (String × FileTree)} {t' : FileTree}, R (directory es) t' →
    ∃ es', t' = directory es' ∧ ∀ name, Option.Rel R (find? name es) (find? name es')
  outside : ∀ {t : FileTree} {es' : List (String × FileTree)}, R t (directory es') →
    ∃ es, t = directory es
  link : ∀ {target : String} {t' : FileTree}, R (.link target) t' → t' = .link target
  direct : ∀ {t : FileTree} {target : String}, R t (.link target) → t = .link target

/-- The places have trees that are alike around them. -/
structure Place.Related (R : FileTree → FileTree → Prop) (p p' : Place) : Prop where
  links : p.links = p'.links
  above : List.Forall₂ R p.above p'.above
  here : R p.here p'.here

section Related

variable {R : FileTree → FileTree → Prop} {top top' t t' : FileTree} {p p' : Place}

theorem Place.Related.root (h : R t t') : (Place.root t).Related R (.root t') :=
  ⟨rfl, .nil, h⟩

theorem Place.Related.up (h : p.Related R p') : p.up.Related R p'.up := by
  obtain ⟨links, above, here⟩ := p
  obtain ⟨links', above', here'⟩ := p'
  obtain ⟨same, around, alike⟩ := h
  cases around with
  | nil => exact ⟨same, .nil, alike⟩
  | cons nearest others => exact ⟨same, others, nearest⟩

theorem Place.Related.into (h : p.Related R p') (alike : R t t') :
    (p.into t).Related R (p'.into t') :=
  ⟨h.links, .cons h.here h.above, alike⟩

theorem Place.Related.base (h : p.Related R p') (tops : R top top') (links : Nat)
    (target : String) : (p.base top links target).Related R (p'.base top' links target) := by
  unfold Place.base
  split
  · exact ⟨rfl, .nil, tops⟩
  · exact ⟨rfl, h.above, h.here⟩

end Related

namespace Similarity

variable {R : FileTree → FileTree → Prop} {top top' : FileTree} {p p' q : Place}
  {ps qs : List String} {r : Except FileError FileTree}

theorem inside_of_related (sim : Similarity R) (places : p.Related R p')
    {es : List (String × FileTree)} (inside : p.here = .directory es) : ∃ es',
      p'.here = .directory es' ∧ ∀ name, Option.Rel R (find? name es) (find? name es') := by
  have here := places.here
  rw [inside] at here
  exact sim.inside here

/-- What is found by a name in one directory has its counterpart in the other. -/
theorem finds (sim : Similarity R) (places : p.Related R p') {es : List (String × FileTree)}
    (inside : p.here = .directory es) {name : String} {t : FileTree}
    (found : find? name es = some t) :
    ∃ es' t', p'.here = .directory es' ∧ find? name es' = some t' ∧ R t t' := by
  obtain ⟨es', inside', both⟩ := sim.inside_of_related places inside
  have both := both name
  rw [found] at both
  cases found' : find? name es' with
  | none => rw [found'] at both; cases both
  | some t' =>
    rw [found'] at both
    exact ⟨es', t', inside', found', Option.rel_some_some.mp both⟩

/-- What is not there in one directory is not there in the other. -/
theorem misses (sim : Similarity R) (places : p.Related R p') {es : List (String × FileTree)}
    (inside : p.here = .directory es) {name : String} (absent : find? name es = none) :
    ∃ es', p'.here = .directory es' ∧ find? name es' = none := by
  obtain ⟨es', inside', both⟩ := sim.inside_of_related places inside
  have both := both name
  rw [absent] at both
  cases absent' : find? name es' with
  | none => exact ⟨es', inside', absent'⟩
  | some t' => rw [absent'] at both; cases both

/-- A step in one tree is one in the other. -/
theorem step (sim : Similarity R) (tops : R top top') (places : p.Related R p')
    (h : Step top p ps q qs) : ∃ q', Step top' p' ps q' qs ∧ q.Related R q' := by
  cases h with
  | stay rest inside idle =>
    obtain ⟨es', inside', -⟩ := sim.inside_of_related places inside
    exact ⟨p', .stay _ inside' idle, places⟩
  | up rest inside =>
    obtain ⟨es', inside', -⟩ := sim.inside_of_related places inside
    exact ⟨p'.up, .up _ inside', places.up⟩
  | into rest inside name found direct =>
    obtain ⟨es', t', inside', found', alike⟩ := sim.finds places inside found
    refine ⟨p'.into t', .into _ inside' name found' fun target h => ?_, places.into alike⟩
    subst h
    exact direct target (sim.direct alike)
  | @link es part target links rest inside name found left nonempty =>
    obtain ⟨es', t', inside', found', alike⟩ := sim.finds places inside found
    rw [sim.link alike] at found'
    exact ⟨p'.base top' links target, .link _ inside' name found' (places.links ▸ left) nonempty,
      places.base tops links target⟩

/-- Steps in one tree are followed by the same steps in the other. -/
theorem steps (sim : Similarity R) (tops : R top top') (places : p.Related R p')
    (h : Steps top p ps q qs) : ∃ q', Steps top' p' ps q' qs ∧ q.Related R q' := by
  induction h generalizing p' with
  | refl => exact ⟨p', .refl _ _, places⟩
  | more step _ ih =>
    obtain ⟨q', step', places'⟩ := sim.step tops places step
    obtain ⟨q'', steps', places''⟩ := ih places'
    exact ⟨q'', .more step' steps', places''⟩

/-- Where no step is left in one tree, none is left in the other, and the outcomes are related. -/
theorem halts (sim : Similarity R) (places : p.Related R p') (h : Halts p ps r) :
    ∃ r', Halts p' ps r' ∧ Parallel R r r' := by
  cases h with
  | arrived => exact ⟨_, .arrived p', .ok places.here⟩
  | outside rest outside =>
    refine ⟨_, .outside rest fun es' h => ?_, .error _⟩
    have here := places.here
    rw [h] at here
    obtain ⟨es, inside⟩ := sim.outside here
    exact outside es inside
  | long rest inside long =>
    obtain ⟨es', inside', -⟩ := sim.inside_of_related places inside
    exact ⟨_, .long _ inside' long, .error _⟩
  | absent rest inside name absent =>
    obtain ⟨es', inside', absent'⟩ := sim.misses places inside absent
    exact ⟨_, .absent _ inside' name absent', .error _⟩
  | blank rest inside name found left =>
    obtain ⟨es', t', inside', found', alike⟩ := sim.finds places inside found
    rw [sim.link alike] at found'
    exact ⟨_, .blank _ inside' name found' (places.links ▸ left), .error _⟩
  | spent rest inside name found spent =>
    obtain ⟨es', t', inside', found', alike⟩ := sim.finds places inside found
    rw [sim.link alike] at found'
    exact ⟨_, .spent _ inside' name found' (places.links ▸ spent), .error _⟩

/-- **A path leads to the same place** in trees that are alike. -/
theorem follow (sim : Similarity R) (tops : R top top') (places : p.Related R p')
    (ps : List String) : Parallel R (p.follow top ps) (p'.follow top' ps) := by
  obtain ⟨q, qs, steps, halts⟩ := exists_halts top p ps
  obtain ⟨q', steps', places'⟩ := sim.steps tops places steps
  obtain ⟨r', halts', both⟩ := sim.halts places' halts
  rwa [steps'.follow_eq, halts'.follow_eq]

/-- A path leads to related places in related trees. -/
theorem resolve (sim : Similarity R) (tops : R top top') (directory path : String) :
    Parallel R (top.resolve directory path) (top'.resolve directory path) := by
  unfold FileTree.resolve
  split
  · exact .error _
  · split
    · exact .error _
    · split
      · exact .error _
      · exact sim.follow tops (.root tops) _

/-- What is listed in one tree is alike in the other. -/
theorem list (sim : Similarity R) (tops : R top top') (directory path : String) :
    Parallel (fun es es' => R (.directory es) (.directory es')) (top.list directory path)
      (top'.list directory path) := by
  have places := sim.resolve tops directory path
  unfold FileTree.list
  generalize top.resolve directory path = x, top'.resolve directory path = x' at places
  cases places with
  | error e => exact .error e
  | @ok found found' alike =>
    cases found with
    | directory es =>
      obtain ⟨es', rfl, -⟩ := sim.inside alike
      exact .ok alike
    | file _ | link _ =>
      cases found' with
      | directory es' =>
        obtain ⟨es, h⟩ := sim.outside alike
        cases h
      | file _ | link _ => exact .error _

end Similarity

/-! ### Orders of entries -/

/-- The trees differ at most in the order of the entries of their directories. -/
inductive Reordered : FileTree → FileTree → Prop where
  | file (content : Octets) : Reordered (.file content) (.file content)
  | link (target : String) : Reordered (.link target) (.link target)
  | directory {es es' : List (String × FileTree)}
      (names : (es.map Prod.fst).Perm (es'.map Prod.fst))
      (below : ∀ e ∈ es, ∀ e' ∈ es', e.1 = e'.1 → Reordered e.2 e'.2) :
      Reordered (.directory es) (.directory es')

namespace Reordered

variable {t t' : FileTree} {es es' : List (String × FileTree)}

theorem refl (wf : t.WellFormed) : Reordered t t := by
  induction wf with
  | file content => exact .file content
  | link target => exact .link target
  | directory names distinct below ih =>
    refine .directory (.refl _) fun e mem e' mem' same => ?_
    obtain rfl := List.inj_on_of_nodup_map distinct mem mem' same
    exact ih e mem

/-- The entries of a directory in any order. -/
theorem of_perm (wf : (FileTree.directory es).WellFormed) (order : es.Perm es') :
    Reordered (.directory es) (.directory es') := by
  cases wf with
  | directory names distinct below =>
    refine .directory (order.map _) fun e mem e' mem' same => ?_
    obtain rfl := List.inj_on_of_nodup_map distinct mem (order.symm.subset mem') same
    exact .refl (below e mem)

theorem symm (h : Reordered t t') : Reordered t' t := by
  induction h with
  | file content => exact .file content
  | link target => exact .link target
  | directory names _ ih =>
    exact .directory names.symm fun e' mem' e mem same => ih e mem e' mem' same.symm

/-- Every entry has its counterpart of the same name. -/
theorem exists_entry (h : Reordered (.directory es) (.directory es')) {e : String × FileTree}
    (mem : e ∈ es) : ∃ e' ∈ es', e'.1 = e.1 ∧ Reordered e.2 e'.2 := by
  cases h with
  | directory names below =>
    obtain ⟨e', mem', same⟩ := List.mem_map.mp (names.subset (List.mem_map_of_mem mem))
    exact ⟨e', mem', same, below e mem e' mem' same.symm⟩

theorem wellFormed (h : Reordered t t') (wf : t.WellFormed) : t'.WellFormed := by
  induction h with
  | file content => exact .file content
  | link target => exact .link target
  | @directory es es' names below ih =>
    cases wf with
    | directory entryNames distinct wfs =>
      have before {e' : String × FileTree} (mem' : e' ∈ es') : ∃ e ∈ es, e.1 = e'.1 :=
        List.mem_map.mp (names.symm.subset (List.mem_map_of_mem mem'))
      refine .directory (fun e' mem' => ?_) (names.nodup_iff.mp distinct) fun e' mem' => ?_
      · obtain ⟨e, mem, same⟩ := before mem'
        exact same ▸ entryNames e mem
      · obtain ⟨e, mem, same⟩ := before mem'
        exact ih e mem e' mem' same (wfs e mem)

/-- In well-formed trees, names are found regardless of the order. -/
theorem similarity : Similarity fun t t' => t.WellFormed ∧ Reordered t t' where
  inside {es t'} := by
    rintro ⟨wf, reordered⟩
    have wf' := reordered.wellFormed wf
    cases reordered with
    | @directory _ es' names below =>
      cases wf with
      | directory _ distinct wfs =>
        cases wf' with
        | directory _ distinct' _ =>
          refine ⟨es', rfl, fun name => ?_⟩
          cases found : find? name es with
          | some t =>
            have mem := (find?_eq_some_iff distinct).mp found
            obtain ⟨⟨_, t'⟩, mem', rfl, alike⟩ :=
              (Reordered.directory names below).exists_entry mem
            rw [(find?_eq_some_iff distinct').mpr mem']
            exact .some ⟨wfs _ mem, alike⟩
          | none =>
            cases found' : find? name es' with
            | none => exact .none
            | some t' =>
              have mem' := (find?_eq_some_iff distinct').mp found'
              obtain ⟨⟨_, t⟩, mem, rfl, -⟩ :=
                (Reordered.directory names below).symm.exists_entry mem'
              cases found.symm.trans ((find?_eq_some_iff distinct).mpr mem)
  outside := by
    rintro t es' ⟨-, reordered⟩
    cases reordered with
    | directory _ _ => exact ⟨_, rfl⟩
  link := by
    rintro target t' ⟨-, reordered⟩
    cases reordered with
    | link => rfl
  direct := by
    rintro t target ⟨-, reordered⟩
    cases reordered with
    | link => rfl

end Reordered

end LogSteward.FileTree

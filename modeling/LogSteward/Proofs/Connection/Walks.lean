import Mathlib.Data.List.Nodup
import LogSteward.Proofs.Connection.Paths

/-!
# Following paths

Following a path is going from place to place: each part leads from one `Place` to the next
(`Step`), a link puts the parts of its target before those that are left, and where there is no
further step the outcome is known (`Halts`).  Every path comes to such an end (`exists_halts`), so
what is to be said of paths can be said of steps: they do not look ahead (`follow_append`), and they
stay within well-formed trees (`Steps.wellFormed`).

So the entries of a directory are found below the path under which it is listed (`resolve_entry`),
and a path is not found exactly if its steps come to a name that is not there
(`resolve_eq_notFound_iff`).
-/

namespace LogSteward.FileTree

/-! ### One part -/

/-- One part of a path, followed in a directory. -/
theorem follow_directory (top : FileTree) (links : Nat) (above : List FileTree)
    (entries : List (String × FileTree)) (part : String) (rest : List String) :
    follow top links above (directory entries) (part :: rest) =
      if part = "" ∨ part = "." then follow top links above (directory entries) rest
      else if part = ".." then
        follow top links above.tail (above.headD (directory entries)) rest
      else if nameLimit < part.utf8ByteSize then .error .nameTooLong
      else match find? part entries with
        | none => .error .notFound
        | some (link target) =>
          match links with
          | 0 => .error .linkLoop
          | links + 1 =>
            if target = "" then .error .notFound
            else if target.startsWith "/" then
              follow top links [] top (parts target ++ rest)
            else follow top links above (directory entries) (parts target ++ rest)
        | some t => follow top links (directory entries :: above) t rest := by
  rw [follow.eq_def]
  cases above with
  | nil | cons d ds =>
    dsimp only
    cases find? part entries with
    | none => rfl
    | some t =>
      cases t with
      | file content | directory es | link target => rfl

/-- Nothing is below what is no directory. -/
theorem follow_outside {here : FileTree} (h : ∀ es, here ≠ directory es) (top : FileTree)
    (links : Nat) (above : List FileTree) (part : String) (rest : List String) :
    follow top links above here (part :: rest) = .error .notADirectory := by
  rw [follow]
  exact h

/-! ### Steps -/

/-- A part of a path that is looked up as the name of an entry. -/
structure IsName (part : String) : Prop where
  nonempty : part ≠ ""
  notHere : part ≠ "."
  notAbove : part ≠ ".."
  short : part.utf8ByteSize ≤ nameLimit

instance (part : String) : Decidable (IsName part) :=
  decidable_of_iff (part ≠ "" ∧ part ≠ "." ∧ part ≠ ".." ∧ part.utf8ByteSize ≤ nameLimit)
    ⟨fun ⟨h, h', h'', short⟩ => ⟨h, h', h'', short⟩,
      fun h => ⟨h.nonempty, h.notHere, h.notAbove, h.short⟩⟩

/-- Where one is on a path: what has been reached, the directories around it, the nearest first, and
how many more links may be followed. -/
structure Place where
  links : Nat
  above : List FileTree
  here : FileTree

namespace Place

/-- Follows the parts of a path from the place. -/
def follow (top : FileTree) (p : Place) (parts : List String) : Except FileError FileTree :=
  FileTree.follow top p.links p.above p.here parts

/-- The directory around a place; nothing is around the root. -/
def up (p : Place) : Place :=
  { p with above := p.above.tail, here := p.above.headD p.here }

/-- An entry of the directory that has been reached. -/
def into (p : Place) (t : FileTree) : Place :=
  { p with above := p.here :: p.above, here := t }

/-- Where the target of a link is followed from: the root or the directory that has the link. -/
def base (top : FileTree) (p : Place) (links : Nat) (target : String) : Place :=
  if target.startsWith "/" then { links, above := [], here := top } else { p with links }

end Place

/-- One step: a place and the parts that are left, and what they are afterwards. -/
inductive Step (top : FileTree) : Place → List String → Place → List String → Prop where
  | stay {p : Place} {es : List (String × FileTree)} {part : String} (rest : List String)
      (inside : p.here = directory es) (idle : part = "" ∨ part = ".") :
      Step top p (part :: rest) p rest
  | up {p : Place} {es : List (String × FileTree)} (rest : List String)
      (inside : p.here = directory es) : Step top p (".." :: rest) p.up rest
  | into {p : Place} {es : List (String × FileTree)} {part : String} {t : FileTree}
      (rest : List String) (inside : p.here = directory es) (name : IsName part)
      (found : find? part es = some t) (direct : ∀ target, t ≠ link target) :
      Step top p (part :: rest) (p.into t) rest
  | link {p : Place} {es : List (String × FileTree)} {part target : String} {links : Nat}
      (rest : List String) (inside : p.here = directory es) (name : IsName part)
      (found : find? part es = some (link target)) (left : p.links = links + 1)
      (nonempty : target ≠ "") :
      Step top p (part :: rest) (p.base top links target) (parts target ++ rest)

/-- There is no further step, and so the path has this outcome. -/
inductive Halts : Place → List String → Except FileError FileTree → Prop where
  | arrived (p : Place) : Halts p [] (.ok p.here)
  | outside {p : Place} {part : String} (rest : List String)
      (outside : ∀ es, p.here ≠ directory es) : Halts p (part :: rest) (.error .notADirectory)
  | long {p : Place} {es : List (String × FileTree)} {part : String} (rest : List String)
      (inside : p.here = directory es) (long : nameLimit < part.utf8ByteSize) :
      Halts p (part :: rest) (.error .nameTooLong)
  | absent {p : Place} {es : List (String × FileTree)} {part : String} (rest : List String)
      (inside : p.here = directory es) (name : IsName part) (absent : find? part es = none) :
      Halts p (part :: rest) (.error .notFound)
  /-- A link without a target leads nowhere. -/
  | blank {p : Place} {es : List (String × FileTree)} {part : String} {links : Nat}
      (rest : List String) (inside : p.here = directory es) (name : IsName part)
      (found : find? part es = some (link "")) (left : p.links = links + 1) :
      Halts p (part :: rest) (.error .notFound)
  | spent {p : Place} {es : List (String × FileTree)} {part target : String} (rest : List String)
      (inside : p.here = directory es) (name : IsName part)
      (found : find? part es = some (link target)) (spent : p.links = 0) :
      Halts p (part :: rest) (.error .linkLoop)

/-- A link with a relative target is replaced by it in the directory that has the link. -/
theorem Step.relative {top : FileTree} {p : Place} {es : List (String × FileTree)}
    {part target : String} {links : Nat} (rest : List String) (inside : p.here = directory es)
    (name : IsName part) (found : find? part es = some (.link target)) (left : p.links = links + 1)
    (nonempty : target ≠ "") (relative : ¬ target.startsWith "/" = true) :
    Step top p (part :: rest) { p with links } (parts target ++ rest) := by
  have base : p.base top links target = { p with links } := if_neg relative
  exact base ▸ .link rest inside name found left nonempty

/-- Any number of steps. -/
inductive Steps (top : FileTree) : Place → List String → Place → List String → Prop where
  | refl (p : Place) (ps : List String) : Steps top p ps p ps
  | more {p p₁ p' : Place} {ps ps₁ ps' : List String} (h : Step top p ps p₁ ps₁)
      (t : Steps top p₁ ps₁ p' ps') : Steps top p ps p' ps'

section Steps

variable {top : FileTree} {p p' : Place} {ps ps' : List String} {r : Except FileError FileTree}

/-- A name is followed to its entry, through its target if that is a link. -/
theorem IsName.followed {part : String} (name : IsName part) {es : List (String × FileTree)}
    (inside : p.here = directory es) (rest : List String) :
    p.follow top (part :: rest) = match find? part es with
      | none => .error .notFound
      | some (.link target) =>
        match p.links with
        | 0 => .error .linkLoop
        | links + 1 =>
          if target = "" then .error .notFound
          else (p.base top links target).follow top (parts target ++ rest)
      | some t => (p.into t).follow top rest := by
  obtain ⟨links, above, here⟩ := p
  cases inside
  simp only [Place.follow, follow_directory, name.nonempty, name.notHere, or_self, if_false,
    name.notAbove, Nat.not_lt.mpr name.short]
  cases find? part es with
  | none => rfl
  | some t =>
    cases t with
    | file content | directory es => rfl
    | link target =>
      cases links with
      | zero => rfl
      | succ links =>
        simp only [Place.base]
        split
        · rfl
        · split
          · rfl
          · rfl

/-- A step does not change what a path leads to. -/
theorem Step.follow_eq (h : Step top p ps p' ps') : p.follow top ps = p'.follow top ps' := by
  cases h with
  | stay rest inside idle =>
    obtain ⟨links, above, here⟩ := p
    cases inside
    rw [Place.follow, follow_directory, if_pos idle]
    rfl
  | up rest inside =>
    obtain ⟨links, above, here⟩ := p
    cases inside
    rw [Place.follow, follow_directory, if_neg (by decide), if_pos rfl]
    rfl
  | @into es part t rest inside name found direct =>
    rw [name.followed inside, found]
    cases t with
    | file content | directory es => rfl
    | link target => exact absurd rfl (direct target)
  | link rest inside name found left nonempty =>
    rw [name.followed inside, found]
    simp only [left, if_neg nonempty]

theorem Halts.follow_eq (h : Halts p ps r) : p.follow top ps = r := by
  cases h with
  | arrived => rw [Place.follow, FileTree.follow]
  | outside rest outside => exact follow_outside outside _ _ _ _ _
  | @long es part rest inside long =>
    obtain ⟨links, above, here⟩ := p
    cases inside
    have other (short : String) (h : short.utf8ByteSize ≤ nameLimit) : part ≠ short := by
      rintro rfl
      exact absurd h (Nat.not_le.mpr long)
    rw [Place.follow, follow_directory, if_neg, if_neg (other _ (by decide)), if_pos long]
    exact not_or.mpr ⟨other _ (by decide), other _ (by decide)⟩
  | absent rest inside name absent => rw [name.followed inside, absent]
  | blank rest inside name found left =>
    rw [name.followed inside, found]
    simp only [left, if_true]
  | spent rest inside name found spent =>
    rw [name.followed inside, found]
    simp only [spent]

/-- Steps do not change where a walk leads. -/
theorem Steps.follow_eq (h : Steps top p ps p' ps') : p.follow top ps = p'.follow top ps' := by
  induction h with
  | refl => rfl
  | more step _ ih => exact step.follow_eq.trans ih

/-- A step does not look at what comes later. -/
theorem Step.append (h : Step top p ps p' ps') (more : List String) :
    Step top p (ps ++ more) p' (ps' ++ more) := by
  cases h with
  | stay rest inside idle => exact .stay _ inside idle
  | up rest inside => exact .up _ inside
  | into rest inside name found direct => exact .into _ inside name found direct
  | link rest inside name found left nonempty =>
    rw [List.append_assoc]
    exact .link _ inside name found left nonempty

theorem Steps.append (h : Steps top p ps p' ps') (more : List String) :
    Steps top p (ps ++ more) p' (ps' ++ more) := by
  induction h with
  | refl => exact .refl _ _
  | more step _ ih => exact .more (step.append more) ih

/-- Where a path has failed, more parts do not help. -/
theorem Halts.append {e : FileError} (h : Halts p ps (.error e)) (more : List String) :
    Halts p (ps ++ more) (.error e) := by
  cases h with
  | outside rest outside => exact .outside _ outside
  | long rest inside long => exact .long _ inside long
  | absent rest inside name absent => exact .absent _ inside name absent
  | blank rest inside name found left => exact .blank _ inside name found left
  | spent rest inside name found spent => exact .spent _ inside name found spent

/-- **Every path comes to an end**: links leave fewer links to be followed, and all other steps
leave fewer parts. -/
theorem exists_halts (top : FileTree) (p : Place) (ps : List String) :
    ∃ p' ps', Steps top p ps p' ps' ∧ Halts p' ps' (p.follow top ps) := by
  have after {p₁ : Place} {ps₁ : List String} (step : Step top p ps p₁ ps₁)
      (ends : ∃ p' ps', Steps top p₁ ps₁ p' ps' ∧ Halts p' ps' (p₁.follow top ps₁)) :
      ∃ p' ps', Steps top p ps p' ps' ∧ Halts p' ps' (p.follow top ps) := by
    obtain ⟨p', ps', steps, halts⟩ := ends
    exact ⟨p', ps', .more step steps, step.follow_eq ▸ halts⟩
  have now {r : Except FileError FileTree} (halts : Halts p ps r) :
      ∃ p' ps', Steps top p ps p' ps' ∧ Halts p' ps' (p.follow top ps) := by
    have ended : p.follow top ps = r := halts.follow_eq
    exact ⟨p, ps, .refl _ _, ended ▸ halts⟩
  match ps with
  | [] => exact now (.arrived p)
  | part :: rest =>
    by_cases inside : ∃ es, p.here = directory es
    case neg => exact now (.outside rest fun es h => inside ⟨es, h⟩)
    obtain ⟨es, inside⟩ := inside
    by_cases idle : part = "" ∨ part = "."
    · exact after (.stay rest inside idle) (exists_halts top p rest)
    by_cases notAbove : part = ".."
    · subst notAbove
      exact after (.up rest inside) (exists_halts top p.up rest)
    by_cases short : part.utf8ByteSize ≤ nameLimit
    case neg => exact now (.long rest inside (Nat.not_le.mp short))
    have name : IsName part := ⟨(not_or.mp idle).1, (not_or.mp idle).2, notAbove, short⟩
    cases found : find? part es with
    | none => exact now (.absent rest inside name found)
    | some t =>
      by_cases direct : ∀ target, t ≠ .link target
      · exact after (.into rest inside name found direct) (exists_halts top (p.into t) rest)
      simp only [not_forall, not_not] at direct
      obtain ⟨target, rfl⟩ := direct
      cases left : p.links with
      | zero => exact now (.spent rest inside name found left)
      | succ links =>
        by_cases blank : target = ""
        · subst blank
          exact now (.blank rest inside name found left)
        · exact after (.link rest inside name found left blank)
            (exists_halts top (p.base top links target) (parts target ++ rest))
termination_by (p.links, ps.length)
decreasing_by
  · exact .right _ (Nat.lt_succ_self _)
  · exact .right _ (Nat.lt_succ_self _)
  · exact .right _ (Nat.lt_succ_self _)
  · refine .left _ _ ?_
    rw [left, Place.base]
    split <;> exact Nat.lt_succ_self _

/-- **Paths are followed part by part.**  If the first parts fail, so do they with more of them;
otherwise they lead to a place, and the others are followed from there. -/
theorem follow_append (top : FileTree) (p : Place) (ps : List String) :
    (∃ e, p.follow top ps = .error e ∧ ∀ more, p.follow top (ps ++ more) = .error e) ∨
      ∃ p', Steps top p ps p' [] ∧ p.follow top ps = .ok p'.here ∧
        ∀ more, p.follow top (ps ++ more) = p'.follow top more := by
  obtain ⟨p', ps', steps, halts⟩ := exists_halts top p ps
  cases ends : p.follow top ps with
  | error e =>
    rw [ends] at halts
    exact .inl ⟨e, rfl, fun more =>
      ((steps.append more).follow_eq).trans (halts.append more).follow_eq⟩
  | ok t =>
    rw [ends] at halts
    cases halts with
    | arrived => exact .inr ⟨p', steps, rfl, fun more => (steps.append more).follow_eq⟩

end Steps

/-! ### Well-formed trees -/

/-- A name that an entry may have. -/
structure IsEntryName (name : String) : Prop extends IsName name where
  plain : '/' ∉ name.toList
  noZero : '\x00' ∉ name.toList

instance (name : String) : Decidable (IsEntryName name) :=
  decidable_of_iff (IsName name ∧ '/' ∉ name.toList ∧ '\x00' ∉ name.toList)
    ⟨fun ⟨h, plain, noZero⟩ => ⟨h, plain, noZero⟩, fun h => ⟨h.toIsName, h.plain, h.noZero⟩⟩

/-- In every directory, the entries have names, and different ones. -/
inductive WellFormed : FileTree → Prop where
  | file (content : Octets) : WellFormed (.file content)
  | link (target : String) : WellFormed (.link target)
  | directory {es : List (String × FileTree)} (names : ∀ e ∈ es, IsEntryName e.1)
      (distinct : (es.map Prod.fst).Nodup) (below : ∀ e ∈ es, WellFormed e.2) :
      WellFormed (.directory es)

section WellFormed

variable {top t : FileTree} {p p' : Place} {ps ps' : List String} {es : List (String × FileTree)}
  {name : String}

/-- With different names, each entry is the one that is found. -/
theorem find?_eq_some_iff (distinct : (es.map Prod.fst).Nodup) :
    find? name es = some t ↔ (name, t) ∈ es := by
  induction es with
  | nil => exact iff_of_false nofun List.not_mem_nil
  | cons e es ih =>
    obtain ⟨n, u⟩ := e
    obtain ⟨new, distinct⟩ := List.nodup_cons.mp distinct
    by_cases same : n = name
    · subst same
      have other : (n, t) ∉ es := fun mem => new (List.mem_map.mpr ⟨_, mem, rfl⟩)
      simp [find?, other, eq_comm]
    · have later : find? name ((n, u) :: es) = find? name es := by
        simp [find?, same]
      rw [later, ih distinct, List.mem_cons, Prod.mk.injEq]
      exact ⟨.inr, fun h => h.resolve_left fun h => same h.1.symm⟩

/-- All that one has passed on a path is well-formed. -/
structure Place.WellFormed (p : Place) : Prop where
  above : ∀ d ∈ p.above, d.WellFormed
  here : p.here.WellFormed

/-- A step leads from well-formed trees to well-formed trees. -/
theorem Step.wellFormed (h : Step top p ps p' ps') (tops : top.WellFormed) (wf : p.WellFormed) :
    p'.WellFormed := by
  cases h with
  | stay => exact wf
  | up rest inside =>
    obtain ⟨links, above, here⟩ := p
    cases above with
    | nil => exact ⟨wf.above, wf.here⟩
    | cons d ds =>
      obtain ⟨first, others⟩ := List.forall_mem_cons.mp wf.above
      exact ⟨others, first⟩
  | into rest inside name found direct =>
    refine ⟨List.forall_mem_cons.mpr ⟨wf.here, wf.above⟩, ?_⟩
    have here := wf.here
    rw [inside] at here
    cases here with
    | directory names distinct below => exact below _ ((find?_eq_some_iff distinct).mp found)
  | link rest inside name found left nonempty =>
    rw [Place.base]
    split
    · exact ⟨nofun, tops⟩
    · exact ⟨wf.above, wf.here⟩

theorem Steps.wellFormed (h : Steps top p ps p' ps') (tops : top.WellFormed) (wf : p.WellFormed) :
    p'.WellFormed := by
  induction h with
  | refl => exact wf
  | more step _ ih => exact ih (step.wellFormed tops wf)

end WellFormed

/-! ### Paths from the root -/

/-- The place where paths from the root begin. -/
def Place.root (t : FileTree) : Place where
  links := linkLimit
  above := []
  here := t

section Resolve

variable {t : FileTree} {directory path : String}

/-- The path can be given to the system: it is no longer than it takes, and has no zero
character. -/
structure IsPath (path : String) : Prop where
  noZero : '\x00' ∉ path.toList
  nonempty : path ≠ ""
  short : path.utf8ByteSize ≤ pathLimit

/-- The path of an entry is not empty and has no zero character. -/
theorem IsPath.join_clean {name : String} (whole : IsPath path) (entry : IsEntryName name) :
    '\x00' ∉ (join path name).toList ∧ join path name ≠ "" := by
  have relative : ¬ (path = "" ∨ name.startsWith "/" = true) :=
    not_or.mpr ⟨whole.nonempty, not_startsWith_of_notMem entry.plain⟩
  have clean : '\x00' ∉ (separator path).toList := by
    rw [separator]
    split <;> decide
  rw [join_of_relative relative]
  refine ⟨?_, by simp [entry.nonempty]⟩
  simp only [String.toList_append, List.mem_append, not_or]
  exact ⟨⟨whole.noZero, clean⟩, entry.noZero⟩

/-- A path stays one below it, as long as it is not too long. -/
theorem IsPath.below {name : String} (whole : IsPath path) (entry : IsEntryName name)
    (short : (join path name).utf8ByteSize ≤ pathLimit) :
    IsPath (join path name) :=
  ⟨(whole.join_clean entry).1, (whole.join_clean entry).2, short⟩

/-- A path that is too long is refused. -/
theorem IsPath.resolve_join_long {name : String} (whole : IsPath path) (entry : IsEntryName name)
    (long : pathLimit < (join path name).utf8ByteSize) :
    t.resolve directory (join path name) = .error .nameTooLong := by
  obtain ⟨noZero, nonempty⟩ := whole.join_clean entry
  rw [resolve, if_neg (by simpa [String.contains_char_eq] using noZero), if_neg nonempty,
    if_pos long]

/-- A path that can be given to the system is followed from the root, part by part. -/
theorem IsPath.resolve_eq (h : IsPath path) (t : FileTree) (directory : String) :
    t.resolve directory path = (Place.root t).follow t (parts (join directory path)) := by
  have noZero : ¬ path.contains '\x00' = true := by
    simpa [String.contains_char_eq] using h.noZero
  rw [resolve, if_neg noZero, if_neg h.nonempty, if_neg (Nat.not_lt.mpr h.short)]
  rfl

/-- Only what can be given to the system leads anywhere. -/
theorem isPath_of_resolve_ok {found : FileTree} (h : t.resolve directory path = .ok found) :
    IsPath path := by
  rw [resolve] at h
  split at h
  · cases h
  · next noZero =>
    split at h
    · cases h
    · next nonempty =>
      split at h
      · cases h
      · next short =>
        exact ⟨by simpa [String.contains_char_eq] using noZero, nonempty, Nat.not_lt.mp short⟩

/-- A directory is listed exactly if its path leads to it. -/
theorem list_eq_ok_iff {es : List (String × FileTree)} :
    t.list directory path = .ok es ↔ t.resolve directory path = .ok (.directory es) := by
  rw [list]
  cases t.resolve directory path with
  | error e => simp
  | ok found =>
    cases found with
    | file content | link target => simp
    | directory es' => simp

/-- A directory that is not found is a path that is not found. -/
theorem list_eq_notFound_iff : t.list directory path = .error .notFound ↔
    t.resolve directory path = .error .notFound := by
  rw [list]
  cases t.resolve directory path with
  | error e => simp
  | ok found => cases found <;> simp

/-- A slash at the end of a path leads on only in a directory. -/
theorem here_of_follow_blank {p : Place} {found : FileTree} (h : p.follow t [""] = .ok found) :
    p.here = found := by
  by_cases inside : ∃ es, p.here = .directory es
  · obtain ⟨es, inside⟩ := inside
    rw [(Step.stay [] inside (.inl rfl)).follow_eq, (Halts.arrived p).follow_eq] at h
    exact Except.ok.inj h
  · rw [(Halts.outside [] fun es h => inside ⟨es, h⟩).follow_eq] at h
    cases h

/-- One more slash at the end of the path of a directory leads to the same directory. -/
theorem list_slash {es : List (String × FileTree)} (listed : t.list directory path = .ok es)
    (short : (path ++ "/").utf8ByteSize ≤ pathLimit) :
    t.list directory (path ++ "/") = .ok es := by
  have resolved := list_eq_ok_iff.mp listed
  have whole := isPath_of_resolve_ok resolved
  have longer : IsPath (path ++ "/") := by
    refine ⟨?_, by simp, short⟩
    rw [String.toList_append, List.mem_append, not_or]
    exact ⟨whole.noZero, by decide⟩
  have split : parts (join directory (path ++ "/")) = parts (join directory path) ++ [""] := by
    have closed := parts_append (join directory path) ""
    rw [String.append_empty] at closed
    rw [join_append directory whole.nonempty, closed]
    rfl
  rw [whole.resolve_eq] at resolved
  rw [list_eq_ok_iff, longer.resolve_eq, split]
  rcases follow_append t (.root t) (parts (join directory path)) with
    ⟨e, fails, -⟩ | ⟨p, -, arrives, onwards⟩
  · cases resolved.symm.trans fails
  · have inside := Except.ok.inj (arrives.symm.trans resolved)
    rw [onwards, (Step.stay [] inside (.inl rfl)).follow_eq, (Halts.arrived p).follow_eq, inside]

/-- **The entries of a directory are found below it**: where a directory is listed, there is a place
from which the paths of all its entries are followed. -/
theorem exists_place_of_list (wf : t.WellFormed) {es : List (String × FileTree)}
    (listed : t.list directory path = .ok es) :
    ∃ p : Place, p.WellFormed ∧ p.here = .directory es ∧
      ∀ name, IsEntryName name → IsPath (join path name) →
        t.resolve directory (join path name) = p.follow t [name] := by
  have resolved := list_eq_ok_iff.mp listed
  rw [(isPath_of_resolve_ok resolved).resolve_eq] at resolved
  obtain ⟨before, here, below⟩ := parts_join (join directory path)
  rcases follow_append t (.root t) before with ⟨e, fails, still⟩ | ⟨p, steps, arrives, onwards⟩
  · -- the directory would not have been listed
    rcases here with here | here
    · rw [here, fails] at resolved
      cases resolved
    · rw [here, still] at resolved
      cases resolved
  · refine ⟨p, steps.wellFormed wf ⟨nofun, wf⟩, ?_, fun name entry whole => ?_⟩
    · rcases here with here | here
      · rw [here, arrives] at resolved
        exact Except.ok.inj resolved
      · rw [here, onwards] at resolved
        exact here_of_follow_blank resolved
    · rw [whole.resolve_eq, ← join_assoc _ _ entry.plain, below name entry.plain, onwards]

/-- The entries that are listed have names, and different ones. -/
theorem entries_of_list (wf : t.WellFormed) {es : List (String × FileTree)}
    (listed : t.list directory path = .ok es) :
    (∀ e ∈ es, IsEntryName e.1) ∧ (es.map Prod.fst).Nodup := by
  obtain ⟨p, places, inside, -⟩ := exists_place_of_list wf listed
  have here := places.here
  rw [inside] at here
  cases here with
  | directory names distinct _ => exact ⟨names, distinct⟩

/-- What is no link is found as it stands. -/
theorem resolve_entry (wf : t.WellFormed) {es : List (String × FileTree)}
    (listed : t.list directory path = .ok es) {name : String} {found : FileTree}
    (mem : (name, found) ∈ es) (direct : ∀ target, found ≠ .link target)
    (whole : IsPath (join path name)) : t.resolve directory (join path name) = .ok found := by
  obtain ⟨names, distinct⟩ := entries_of_list wf listed
  obtain ⟨p, -, inside, below⟩ := exists_place_of_list wf listed
  have entry : IsEntryName name := names _ mem
  have step : Step t p [name] (p.into found) [] :=
    .into [] inside entry.toIsName ((find?_eq_some_iff distinct).mpr mem) direct
  rw [below name entry whole, step.follow_eq, (Halts.arrived _).follow_eq]
  rfl

/-- A name that no entry has is not found. -/
theorem resolve_absent (wf : t.WellFormed) {es : List (String × FileTree)}
    (listed : t.list directory path = .ok es) {name : String} (entry : IsEntryName name)
    (absent : find? name es = none) (whole : IsPath (join path name)) :
    t.resolve directory (join path name) = .error .notFound := by
  obtain ⟨p, -, inside, below⟩ := exists_place_of_list wf listed
  rw [below name entry whole]
  exact (Halts.absent [] inside entry.toIsName absent).follow_eq

theorem list_root (es : List (String × FileTree)) :
    (FileTree.directory es).list "" "/" = .ok es := by
  let p := Place.root (.directory es)
  have whole : IsPath "/" := ⟨by decide, by decide, by decide⟩
  have steps : Steps (.directory es) p ["", ""] p [] :=
    .more (.stay [""] rfl (.inl rfl)) (.more (.stay [] rfl (.inl rfl)) (.refl _ _))
  rw [list_eq_ok_iff, whole.resolve_eq]
  exact steps.follow_eq.trans (Halts.arrived p).follow_eq

/-- The entries of the root have paths. -/
theorem IsEntryName.isPath {name : String} (entry : IsEntryName name) : IsPath (join "/" name) := by
  have root : IsPath "/" := ⟨by decide, by decide, by decide⟩
  refine root.below entry ?_
  rw [join_of_closed (endsWith_slash_iff.mpr rfl) entry.plain, String.utf8ByteSize_append]
  exact Nat.le_trans (Nat.add_le_add_left entry.short _) (by decide)

/-- An entry of the root that is no link is found below it. -/
theorem resolve_of_root {es : List (String × FileTree)} {name : String} {found : FileTree}
    (wf : (FileTree.directory es).WellFormed) (mem : (name, found) ∈ es)
    (direct : ∀ target, found ≠ .link target) :
    (FileTree.directory es).resolve "" (join "/" name) = .ok found := by
  have listed := list_root es
  have entry : IsEntryName name := (entries_of_list wf listed).1 _ mem
  exact resolve_entry wf listed mem direct entry.isPath

theorem list_of_root {es es' : List (String × FileTree)} {name : String}
    (wf : (FileTree.directory es).WellFormed) (mem : (name, .directory es') ∈ es) :
    (FileTree.directory es).list "" (join "/" name) = .ok es' :=
  list_eq_ok_iff.mpr (resolve_of_root wf mem nofun)

/-- **A path is not found** exactly if it is empty, or if following it comes to a name that is not
there. -/
theorem resolve_eq_notFound_iff : t.resolve directory path = .error .notFound ↔
    path = "" ∨ IsPath path ∧ ∃ p rest, Steps t (.root t) (parts (join directory path)) p rest ∧
      Halts p rest (.error .notFound) := by
  by_cases whole : IsPath path
  · rw [whole.resolve_eq]
    simp only [whole.nonempty, whole, false_or, true_and]
    constructor
    · intro missing
      obtain ⟨p, rest, steps, halts⟩ := exists_halts t (.root t) (parts (join directory path))
      exact ⟨p, rest, steps, missing ▸ halts⟩
    · rintro ⟨p, rest, steps, halts⟩
      exact steps.follow_eq.trans halts.follow_eq
  · simp only [whole, false_and, or_false]
    constructor
    · intro missing
      by_contra nonempty
      rw [resolve, if_neg nonempty] at missing
      split at missing
      · cases missing
      · next noZero =>
        split at missing
        · cases missing
        · next short =>
          refine whole ⟨?_, nonempty, Nat.not_lt.mp short⟩
          simpa [String.contains_char_eq] using noZero
    · rintro rfl
      rw [resolve, if_neg (by simp [String.contains_char_eq]), if_pos rfl]

end Resolve

/-! ### Files behind links -/

/-- A file behind two links: its name is a link to the same name below the version that is current,
which is a link to one of the directories beside it. -/
theorem follow_behind_links {top : FileTree} {p : Place} {links : Nat}
    {es files : List (String × FileTree)} {key current version : String} {content : Octets}
    (inside : p.here = .directory es) (left : p.links = links + 2) (keyName : IsEntryName key)
    (currentName : IsEntryName current) (versionName : IsEntryName version)
    (linked : find? key es = some (.link (current ++ "/" ++ key)))
    (points : find? current es = some (.link version))
    (held : find? version es = some (.directory files))
    (file : find? key files = some (.file content)) : p.follow top [key] = .ok (.file content) := by
  have below : parts (current ++ "/" ++ key) = [current, key] := by
    rw [parts_append, parts_of_notMem currentName.plain, parts_of_notMem keyName.plain]
    rfl
  have relative : ¬ (current ++ "/" ++ key).startsWith "/" = true := by
    rw [String.append_assoc, startsWith_append currentName.nonempty]
    exact not_startsWith_of_notMem currentName.plain
  have first : Step top p [key] { p with links := links + 1 } [current, key] := by
    have nonempty : current ++ "/" ++ key ≠ "" := by simp
    have step : Step top p [key] { p with links := links + 1 }
        (parts (current ++ "/" ++ key) ++ []) :=
      .relative [] inside keyName.toIsName linked left nonempty relative
    rwa [below] at step
  have second : Step top { p with links := links + 1 } [current, key] { p with links }
      [version, key] := by
    have step : Step top { p with links := links + 1 } [current, key] { p with links }
        (parts version ++ [key]) :=
      .relative [key] inside currentName.toIsName points rfl versionName.nonempty
        (not_startsWith_of_notMem versionName.plain)
    rwa [parts_of_notMem versionName.plain] at step
  let reached := Place.into { p with links } (.directory files)
  have third : Step top { p with links } [version, key] reached [key] :=
    .into [key] inside versionName.toIsName held nofun
  have fourth : Step top reached [key] (reached.into (.file content)) [] :=
    .into [] rfl keyName.toIsName file nofun
  rw [first.follow_eq, second.follow_eq, third.follow_eq, fourth.follow_eq,
    (Halts.arrived _).follow_eq]
  rfl

end LogSteward.FileTree

import Mathlib.Data.List.Basic
import LogSteward.Url.Parse

/-!
# What the text of an address says

A path is written with a slash before each segment, so its segments can be read off if none of them
has a slash (`slashed_inj`).  Of two addresses that differ in their paths only, the texts are the
same only if the paths are written alike (`slashed_of_toText`).
-/

namespace LogSteward.Url

/-! ### Paths -/

/-- A path as it is written: each segment follows a slash. -/
def slashed (parts : List String) : List Char :=
  parts.flatMap fun s => '/' :: s.toList

theorem slashed_cons (s : String) (parts : List String) :
    slashed (s :: parts) = '/' :: (s.toList ++ slashed parts) :=
  rfl

theorem slashed_append (parts parts' : List String) :
    slashed (parts ++ parts') = slashed parts ++ slashed parts' :=
  List.flatMap_append

theorem toList_join (parts : List String) :
    (String.join (parts.map ("/" ++ ·))).toList = slashed parts := by
  rw [String.toList_join, List.flatMap_map]
  exact List.flatMap_congr fun s _ => String.toList_append

/-- A segment ends where the next slash is. -/
theorem takeWhile_slashed {cs : List Char} (h : '/' ∉ cs) (parts : List String) :
    (cs ++ slashed parts).takeWhile (· ≠ '/') = cs := by
  have ends : (slashed parts).takeWhile (· ≠ '/') = [] := by
    cases parts with
    | nil => rfl
    | cons s parts => rfl
  rw [List.takeWhile_append_of_pos fun c hc => decide_eq_true (ne_of_mem_of_not_mem hc h), ends,
    List.append_nil]

/-- The segments of a path can be read off. -/
theorem slashed_inj {parts parts' : List String} (h : ∀ s ∈ parts, '/' ∉ s.toList)
    (h' : ∀ s ∈ parts', '/' ∉ s.toList) (e : slashed parts = slashed parts') : parts = parts' := by
  induction parts generalizing parts' with
  | nil =>
      cases parts' with
      | nil => rfl
      | cons t parts' => cases e
  | cons s parts ih =>
      cases parts' with
      | nil => cases e
      | cons t parts' =>
          obtain ⟨hs, h⟩ := List.forall_mem_cons.mp h
          obtain ⟨ht, h'⟩ := List.forall_mem_cons.mp h'
          rw [slashed_cons, slashed_cons] at e
          have e := (List.cons.inj e).2
          have head : s.toList = t.toList := by
            rw [← takeWhile_slashed hs parts, e, takeWhile_slashed ht]
          rw [head] at e
          rw [String.toList_inj.mp head, ih h h' (List.append_cancel_left e)]

/-! ### Addresses -/

/-- This address with another path. -/
def withPath (u : Url) (parts : List String) : Url :=
  { u with path := .segments parts }

/-- Different segments make different addresses. -/
theorem withPath_inj {u : Url} {parts parts' : List String} :
    u.withPath parts = u.withPath parts' ↔ parts = parts' := by
  constructor
  · intro h
    injection h with _ _ _ _ _ h
    injection h
  · rintro rfl
    rfl

/-- What sets a path apart from the scheme where there is no host. -/
def mark (u : Url) (parts : List String) : String :=
  if u.host.isNone && parts.head? = some "" && 1 < parts.length then "/." else ""

/-- What stands before the path. -/
def front (u : Url) : String :=
  u.scheme ++ ":" ++ u.hostText

/-- What stands after the path. -/
def back (u : Url) : String :=
  u.queryText ++ u.fragment.elim "" ("#" ++ ·)

/-- The text of an address, around its segments. -/
theorem toList_toText (u : Url) (parts : List String) :
    (u.withPath parts).toText.toList
      = (u.front ++ u.mark parts).toList ++ (slashed parts ++ u.back.toList) := by
  have parted : (u.withPath parts).toText
      = u.front ++ (u.mark parts ++ String.join (parts.map ("/" ++ ·))) ++ u.queryText
        ++ u.fragment.elim "" ("#" ++ ·) := rfl
  simp only [parted, back, String.toList_append, toList_join, List.append_assoc]

/-- Only the beginning of a path and its length decide whether it is set apart. -/
theorem mark_congr (u : Url) (base : List String) {s t : String} {more more' : List String}
    (hs : s ≠ "") (ht : t ≠ "") (hl : more.length = more'.length) :
    u.mark (base ++ s :: more) = u.mark (base ++ t :: more') := by
  cases base <;> simp [mark, hs, ht, hl]

/-- Addresses that differ in their paths only have the same text only if the paths do. -/
theorem slashed_of_toText {u : Url} {base : List String} {s t : String} {more more' : List String}
    (hs : s ≠ "") (ht : t ≠ "")
    (e : (u.withPath (base ++ s :: more)).toText = (u.withPath (base ++ t :: more')).toText)
    (hl : more.length = more'.length) :
    slashed (s :: more) = slashed (t :: more') := by
  have e := congrArg String.toList e
  rw [toList_toText, toList_toText, mark_congr u base hs ht hl, slashed_append, slashed_append,
    List.append_assoc, List.append_assoc] at e
  exact List.append_cancel_right (List.append_cancel_left (List.append_cancel_left e))

end LogSteward.Url

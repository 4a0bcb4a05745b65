import AdapterReport.Html.Escape

/-!
# Passes over a text

Replacements that are made one after the other are the same as all of them made at once, as long as
no pass finds its character in what an earlier pass has written (`Orderly`).

* `toList_passes`: the passes of an orderly table replace each character on its own.
* `escape_eq`: so does `escape`; its table is orderly since `&` comes first.
-/

namespace AdapterReport.Html

/-! ## Tables of replacements -/

/-- What is written for a character: the text of the first entry for it, or the character itself. -/
def substitute (table : List (Char × String)) (c : Char) : List Char :=
  match table.find? (·.1 = c) with
  | some e => e.2.toList
  | none => [c]

/-- No pass finds its character in what an earlier pass has written. -/
def Orderly (table : List (Char × String)) : Prop :=
  table.Pairwise fun earlier later => later.1 ∉ earlier.2.toList

instance (table : List (Char × String)) : Decidable (Orderly table) :=
  inferInstanceAs (Decidable (List.Pairwise _ _))

variable {table : List (Char × String)}

theorem substitute_cons_self (e : Char × String) : substitute (e :: table) e.1 = e.2.toList := by
  simp [substitute]

theorem substitute_cons_of_ne {e : Char × String} {c : Char} (h : c ≠ e.1) :
    substitute (e :: table) c = substitute table c := by
  simp [substitute, Ne.symm h]

theorem substitute_of_absent {c : Char} (h : ∀ e ∈ table, e.1 ≠ c) : substitute table c = [c] := by
  have hnone : table.find? (·.1 = c) = none := List.find?_eq_none.mpr (by simpa using h)
  rw [substitute, hnone]

/-- A text without any character of the table stays as it is. -/
theorem flatMap_substitute_of_absent {cs : List Char} (h : ∀ e ∈ table, e.1 ∉ cs) :
    cs.flatMap (substitute table) = cs := by
  induction cs with
  | nil => rfl
  | cons c cs ih =>
    have hc : ∀ e ∈ table, e.1 ≠ c := fun e he heq => h e he (heq ▸ List.mem_cons_self)
    have hcs : ∀ e ∈ table, e.1 ∉ cs := fun e he hmem => h e he (List.mem_cons_of_mem c hmem)
    rw [List.flatMap_cons, substitute_of_absent hc, ih hcs, List.singleton_append]

/-- **Passes made one after the other** over a text write for each of its characters what the table
has for it. -/
theorem toList_passes (h : Orderly table) (s : String) :
    (table.foldl (fun s e => replaceEach e.1 e.2 s) s).toList =
      s.toList.flatMap (substitute table) := by
  induction table generalizing s with
  | nil => exact (flatMap_substitute_of_absent (by simp)).symm
  | cons e table ih =>
    obtain ⟨hfirst, hrest⟩ := List.pairwise_cons.mp h
    rw [List.foldl_cons, ih hrest, replaceEach, String.toList_ofList, List.flatMap_assoc]
    congr 1
    funext c
    by_cases hc : c = e.1
    · -- what this pass has written is left alone by the later ones
      rw [hc, if_pos rfl, substitute_cons_self, flatMap_substitute_of_absent hfirst]
    · rw [if_neg hc, substitute_cons_of_ne hc, List.flatMap_singleton]

/-! ## The five passes -/

/-- A character in markup. -/
def escapeChar (c : Char) : List Char :=
  if c = '&' then "&amp;".toList
  else if c = '<' then "&lt;".toList
  else if c = '>' then "&gt;".toList
  else if c = '\x22' then "&quot;".toList
  else if c = '\x27' then "&#39;".toList
  else [c]

theorem orderly_entities : Orderly entities := by
  decide

-- with the pass for `&` behind another one, the `&` of that one's entity would be replaced again
example : ¬ Orderly [('<', "&lt;"), ('&', "&amp;")] := by decide

theorem substitute_entities : substitute entities = escapeChar := by
  funext c
  have hcons (e : Char × String) (table : List (Char × String)) :
      substitute (e :: table) c = if c = e.1 then e.2.toList else substitute table c := by
    split
    · rename_i h
      rw [h, substitute_cons_self]
    · rename_i h
      exact substitute_cons_of_ne h
  rw [entities, hcons, hcons, hcons, hcons, hcons]
  rfl

/-- The five passes write for each character what `escapeChar` has for it. -/
theorem escape_eq (s : String) : escape s = String.ofList (s.toList.flatMap escapeChar) := by
  rw [← substitute_entities, ← toList_passes orderly_entities, String.ofList_toList, escape]

/-- Texts one after the other are escaped one after the other. -/
theorem escape_append (s t : String) : escape (s ++ t) = escape s ++ escape t := by
  simp [escape_eq, String.ofList_append]

end AdapterReport.Html

/-
FtMmi.Lib.SeparatedFields — lists of fields written one after another, each
followed by a separator.

A field that has the separator in it cannot be told from two fields. With
no such field the text gives the fields back, whatever comes after the last
separator (`separated_append_inj`), and so do fields that an injective
function writes (`separated_map_append_inj`).
-/
import Mathlib

namespace FtMmi.Lib

variable {α β : Type*} (sep : α)

/-- Each field, and the separator after it. -/
def separated (fields : List (List α)) : List α := fields.flatMap fun field => field ++ [sep]

@[simp] theorem separated_nil : separated sep ([] : List (List α)) = [] := rfl

@[simp] theorem separated_cons (field : List α) (fields : List (List α)) :
    separated sep (field :: fields) = field ++ sep :: separated sep fields := by
  simp [separated]

theorem separated_append (fields fields' : List (List α)) :
    separated sep (fields ++ fields') = separated sep fields ++ separated sep fields' := by
  simp [separated]

variable {sep}

/-- The first field ends at the first separator. -/
theorem field_append_inj {field field' rest rest' : List α} (hfield : sep ∉ field)
    (hfield' : sep ∉ field') (h : field ++ sep :: rest = field' ++ sep :: rest') :
    field = field' ∧ rest = rest' := by
  induction field generalizing field' with
  | nil =>
    cases field' with
    | nil => exact ⟨rfl, List.tail_eq_of_cons_eq h⟩
    | cons a field' => exact absurd (List.head_eq_of_cons_eq h ▸ List.mem_cons_self) hfield'
  | cons a field ih =>
    cases field' with
    | nil => exact absurd (List.head_eq_of_cons_eq h ▸ List.mem_cons_self) hfield
    | cons b field' =>
      obtain ⟨rfl, htail⟩ := List.cons_eq_cons.mp h
      obtain ⟨rfl, hrest⟩ := ih (fun hmem => hfield (List.mem_cons_of_mem a hmem))
        (fun hmem => hfield' (List.mem_cons_of_mem a hmem)) htail
      exact ⟨rfl, hrest⟩

theorem separated_append_inj {fields fields' : List (List α)} {rest rest' : List α}
    (hfields : ∀ field ∈ fields, sep ∉ field) (hfields' : ∀ field ∈ fields', sep ∉ field)
    (hrest : sep ∉ rest) (hrest' : sep ∉ rest')
    (h : separated sep fields ++ rest = separated sep fields' ++ rest') :
    fields = fields' ∧ rest = rest' := by
  induction fields generalizing fields' with
  | nil =>
    cases fields' with
    | nil => exact ⟨rfl, h⟩
    | cons field' fields' =>
      -- The separator after the first field is in the rest.
      refine absurd ?_ hrest
      rw [separated_nil, List.nil_append] at h
      rw [h]
      simp
  | cons field fields ih =>
    cases fields' with
    | nil =>
      refine absurd ?_ hrest'
      rw [separated_nil, List.nil_append] at h
      rw [← h]
      simp
    | cons field' fields' =>
      simp only [separated_cons, List.append_assoc, List.cons_append] at h
      obtain ⟨rfl, htail⟩ := field_append_inj (hfields field List.mem_cons_self)
        (hfields' field' List.mem_cons_self) h
      obtain ⟨rfl, hsame⟩ := ih (fun other hother => hfields other (List.mem_cons_of_mem _ hother))
        (fun other hother => hfields' other (List.mem_cons_of_mem _ hother)) htail
      exact ⟨rfl, hsame⟩

theorem separated_map_append_inj {write : β → List α} (hwrite : Function.Injective write)
    (hfield : ∀ b, sep ∉ write b) {fields fields' : List β} {rest rest' : β}
    (h : separated sep (fields.map write) ++ write rest
      = separated sep (fields'.map write) ++ write rest') :
    fields = fields' ∧ rest = rest' := by
  have hfields : ∀ bs : List β, ∀ field ∈ bs.map write, sep ∉ field := by
    intro bs field hmem
    obtain ⟨b, _, rfl⟩ := List.mem_map.mp hmem
    exact hfield b
  obtain ⟨hmap, hrest⟩ :=
    separated_append_inj (hfields fields) (hfields fields') (hfield rest) (hfield rest') h
  exact ⟨hwrite.list_map hmap, hwrite hrest⟩

end FtMmi.Lib

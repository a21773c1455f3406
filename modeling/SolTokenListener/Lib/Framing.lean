/-!
# Frames that say where they end

A framing is self-delimiting when a frame and what follows it can be told apart in only one way. Then the
concatenation of frames determines the list that was framed. A list after a self-delimiting header of its
length is such a frame.
-/

namespace SolTokenListener.Lib.Framing

variable {α β : Type}

/-- Of the values in the domain, a frame and its rest determine the value and the rest. -/
def Delimits (domain : α → Prop) (frame : α → List β) : Prop :=
  ∀ ⦃first second rest others⦄, domain first → domain second →
    frame first ++ rest = frame second ++ others → first = second ∧ rest = others

theorem Delimits.flatMap_inj {domain : α → Prop} {frame : α → List β} (delimits : Delimits domain frame)
    (nonempty : ∀ value, frame value ≠ []) {left right : List α} (leftDomain : ∀ value ∈ left, domain value)
    (rightDomain : ∀ value ∈ right, domain value) (same : left.flatMap frame = right.flatMap frame) :
    left = right := by
  induction left generalizing right with
  | nil =>
    cases right with
    | nil => rfl
    | cons value rest =>
      rw [List.flatMap_nil, List.flatMap_cons] at same
      exact absurd (List.append_eq_nil_iff.mp same.symm).1 (nonempty value)
  | cons value rest ih =>
    cases right with
    | nil =>
      rw [List.flatMap_nil, List.flatMap_cons] at same
      exact absurd (List.append_eq_nil_iff.mp same).1 (nonempty value)
    | cons other others =>
      obtain ⟨first, leftRest⟩ := List.forall_mem_cons.mp leftDomain
      obtain ⟨second, rightRest⟩ := List.forall_mem_cons.mp rightDomain
      rw [List.flatMap_cons, List.flatMap_cons] at same
      obtain ⟨rfl, sameRest⟩ := delimits first second same
      rw [ih leftRest rightRest sameRest]

/-- A list after a header of its length. -/
def prefixed (header : Nat → List β) (content : List β) : List β := header content.length ++ content

theorem delimits_prefixed {domain : Nat → Prop} {header : Nat → List β} (delimits : Delimits domain header) :
    Delimits (fun content => domain content.length) (prefixed header) := by
  intro first second rest others firstDomain secondDomain same
  rw [prefixed, prefixed, List.append_assoc, List.append_assoc] at same
  obtain ⟨sameLength, sameContent⟩ := delimits firstDomain secondDomain same
  exact List.append_inj sameContent sameLength

/-- Headers of one width are told apart by their first elements. -/
theorem delimits_of_width {domain : α → Prop} {header : α → List β} (width : Nat)
    (widths : ∀ value, (header value).length = width)
    (injective : ∀ first second, domain first → domain second → header first = header second → first = second) :
    Delimits domain header := by
  intro first second rest others firstDomain secondDomain same
  obtain ⟨sameHeader, sameRest⟩ := List.append_inj same ((widths first).trans (widths second).symm)
  exact ⟨injective first second firstDomain secondDomain sameHeader, sameRest⟩

theorem append_cons_inj {separator : β} {first second rest others : List β} (firstFree : separator ∉ first)
    (secondFree : separator ∉ second) (same : first ++ separator :: rest = second ++ separator :: others) :
    first = second ∧ rest = others := by
  induction first generalizing second with
  | nil =>
    cases second with
    | nil => exact ⟨rfl, (List.cons.inj same).2⟩
    | cons head tail => exact absurd ((List.cons.inj same).1 ▸ List.mem_cons_self) secondFree
  | cons head tail ih =>
    cases second with
    | nil => exact absurd ((List.cons.inj same).1.symm ▸ List.mem_cons_self) firstFree
    | cons other others =>
      obtain ⟨rfl, sameTail⟩ := List.cons.inj same
      obtain ⟨rfl, sameRest⟩ := ih (List.not_mem_of_not_mem_cons firstFree)
        (List.not_mem_of_not_mem_cons secondFree) sameTail
      exact ⟨rfl, sameRest⟩

/-- A header that ends with the first separator. -/
theorem delimits_of_separator {header : α → List β} {separator : β} (free : ∀ value, separator ∉ header value)
    (injective : Function.Injective header) :
    Delimits (fun _ => True) fun value => header value ++ [separator] := by
  intro first second rest others _ _ same
  rw [List.append_assoc, List.append_assoc] at same
  obtain ⟨sameHeader, sameRest⟩ := append_cons_inj (free first) (free second) same
  exact ⟨injective sameHeader, sameRest⟩

end SolTokenListener.Lib.Framing

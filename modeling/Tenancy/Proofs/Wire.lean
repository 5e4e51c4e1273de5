import Tenancy.Proofs.Checked
import Tenancy.Wire

/-! Structures on the wire. Members that stand under different names are read one after the other, and
what each of them keeps of a partly decoded structure is kept of the whole. -/
namespace Tenancy.Wire

variable {σ α β : Type} {known : List (Member σ)} {state state' : σ}

/-- What holds of a partly decoded structure whatever is read into it. -/
def Kept (known : List (Member σ)) (P : σ → Prop) : Prop :=
  ∀ member ∈ known, ∀ json state state', member.read json state = .ok state' → P state → P state'

theorem Kept.nil {P : σ → Prop} : Kept [] P := fun _ listed => nomatch listed

/-- A member that writes what its value is decoded to. -/
theorem Kept.cons {P : σ → Prop} {name : String} {decode : Decoder α} {write : α → σ → σ}
    (keeps : ∀ json value state, decode json = .ok value → P state → P (write value state))
    (rest : Kept known P) :
    Kept (⟨name, fun json state => do return write (← decode json) state⟩ :: known) P := by
  intro member listed json state next read holds
  obtain rfl | listed := List.mem_cons.mp listed
  · obtain ⟨value, decoded, rfl⟩ := functor_map_eq_ok_iff.mp read
    exact keeps json value state decoded holds
  · exact rest member listed json state next read holds

theorem mem_of_findMember? {name : String} {member : Member σ} (found : findMember? name known = some member) :
    member ∈ known := by
  induction known with
  | nil => cases found
  | cons first rest ih =>
    rw [findMember?] at found
    split at found
    · exact List.mem_cons.mpr (.inl (Option.some.inj found).symm)
    · exact List.mem_cons_of_mem first (ih found)

theorem Kept.byName {P : σ → Prop} (kept : Kept known P) {seen : List String} {entries : List (String × Json)}
    (read : byName known seen entries state = .ok state') (starts : P state) : P state' := by
  induction entries generalizing seen state with
  | nil => exact Except.ok.inj read ▸ starts
  | cons entry rest ih =>
    rw [Wire.byName] at read
    split at read
    · exact ih read starts
    · rename_i member found
      split at read
      · cases read
      · obtain ⟨next, first, rest⟩ := bind_eq_ok_iff.mp read
        exact ih rest (kept member (mem_of_findMember? found) _ _ _ first starts)

theorem Kept.byPosition {P : σ → Prop} {items : List Json} (kept : Kept known P)
    (read : byPosition known items state = .ok state') (starts : P state) : P state' := by
  induction known generalizing items state with
  | nil =>
    cases items with
    | nil => exact Except.ok.inj read ▸ starts
    | cons item rest => cases read
  | cons member known ih =>
    cases items with
    | nil => exact Except.ok.inj read ▸ starts
    | cons item rest =>
      obtain ⟨next, first, rest⟩ := bind_eq_ok_iff.mp read
      have others : Kept known P := fun other listed => kept other (List.mem_cons_of_mem member listed)
      exact ih others rest (kept member List.mem_cons_self _ _ _ first starts)

theorem Kept.members {P : σ → Prop} (kept : Kept known P) {json : Json}
    (read : members known state json = .ok state') (starts : P state) : P state' := by
  cases json with
  | object entries => exact kept.byName read starts
  | array items => exact kept.byPosition read starts
  | _ => cases read

theorem of_mem_list {decode : Decoder α} {P : α → Prop} (sound : ∀ json item, decode json = .ok item → P item)
    {json : Json} {items : List α} (read : list decode json = .ok items) : ∀ item ∈ items, P item := by
  cases json with
  | array values =>
    have related := mapM_eq_ok_iff.mp read
    induction related with
    | nil => exact nofun
    | cons first rest ih => exact List.forall_mem_cons.mpr ⟨sound _ _ first, ih (mapM_eq_ok_iff.mpr rest)⟩
  | _ => cases read

theorem of_mem_nullable {decode : Decoder α} {P : α → Prop}
    (sound : ∀ json item, decode json = .ok item → P item) {json : Json} {value : Option α}
    (read : nullable decode json = .ok value) : ∀ item ∈ value, P item := by
  intro item present
  cases json with
  | null =>
    cases read
    cases present
  | _ =>
    obtain ⟨decoded, ok, rfl⟩ := map_eq_ok_iff.mp read
    cases present
    exact sound _ _ ok

theorem required_eq_ok_iff {value : Option α} {item : α} : required value = .ok item ↔ value = some item := by
  cases value <;> simp [required]

end Tenancy.Wire

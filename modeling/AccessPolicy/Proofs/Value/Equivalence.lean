import AccessPolicy.Proofs.Value.Hashing

namespace AccessPolicy.Value

/-- Firm data and what is the same as it are so in either order, and both are firm. -/
theorem same_symm_of_isFirm {v w : Value} (firm : v.IsFirm) (alike : same v w = true) :
    w.IsFirm ∧ same w v = true := by
  induction v using byParts generalizing w with
  | atom v i atom =>
    have other := (same_of_atom atom).mp alike
    exact ⟨isFirm_of_atom other, (same_of_atom other).mpr atom⟩
  | tuple items ih =>
    rw [IsFirm, allFirm_iff] at firm
    obtain ⟨others, rfl, known, back⟩ := same_tuple_symm (fun x inItems {y} => ih x inItems (firm x inItems)) alike
    exact ⟨by rwa [IsFirm, allFirm_iff], back⟩
  | set xs =>
    rw [IsFirm] at firm
    obtain ⟨members, apart⟩ := firm
    obtain ⟨ys, zs, rfl, perm, pairs⟩ := (same_set_iff_of_members members apart).mp alike
    have each : List.Forall₂ (fun x z => x.isMember = true ∧ same x z = true ∧ z.isMember = true ∧ same z x = true)
        xs zs :=
      ((List.forall₂_and_left _ _).mpr ⟨areMembers_iff.mp members, pairs⟩).imp fun x z (both : _ ∧ _) =>
        ⟨both.1, both.2, same_symm_of_isMember both.1 both.2⟩
    have members' : areMembers ys = true := by
      refine areMembers_iff.mpr fun y inYs => ?_
      obtain ⟨x, _, _, _, known, _⟩ := exists_left_of_mem each (perm.mem_iff.mpr inYs)
      exact known
    have apart' : ys.Pairwise fun y y' => same y y' = false ∧ same y' y = false := by
      refine (perm.pairwise_iff And.symm).mp (pairwise_of_forall₂ each apart ?_)
      rintro x x' z z' ⟨member, alike, _⟩ ⟨_, _, member', back⟩ different
      have unlike : same z z' = false := by
        refine Bool.eq_false_iff.mpr fun same => ?_
        simp [same_trans_of_isMember member (same_trans_of_isMember member alike same) back] at different
      refine ⟨unlike, Bool.eq_false_iff.mpr fun same => ?_⟩
      simp [(same_symm_of_isMember member' same).2] at unlike
    have apart'' := apart'.imp And.left
    obtain ⟨xs', inOrder, perm'⟩ := List.perm_comp_forall₂ perm.symm (each.imp fun x z known => known.2.2.2).flip
    refine ⟨by rw [IsFirm]; exact ⟨members', apart''⟩, (same_set_iff_of_members members' apart'').mpr ?_⟩
    exact ⟨xs, xs', rfl, perm', inOrder⟩
  | list | map => rw [IsFirm] at firm; exact firm.elim

theorem same_trans_of_isFirm {v w u : Value} (firm : v.IsFirm) (first : same v w = true) (second : same w u = true) :
    same v u = true := by
  induction v using byParts generalizing w u with
  | atom v i atom => exact (same_of_atom atom).mpr ((same_of_atom ((same_of_atom atom).mp first)).mp second)
  | tuple items ih =>
    rw [IsFirm, allFirm_iff] at firm
    exact same_tuple_trans (fun x inItems {y z} => ih x inItems (firm x inItems)) first second
  | set xs =>
    have between := (same_symm_of_isFirm firm first).1
    rw [IsFirm] at firm
    obtain ⟨ys, _, rfl, _, _⟩ := (same_set_iff_of_members firm.1 firm.2).mp first
    rw [IsFirm] at between
    obtain ⟨zs, _, rfl, _, _⟩ := (same_set_iff_of_members between.1 between.2).mp second
    simp only [same, Bool.and_eq_true, beq_iff_eq, containsAll_iff] at first second ⊢
    refine ⟨first.1.trans second.1, fun x inXs => ?_⟩
    obtain ⟨y, inYs, here⟩ := first.2 x inXs
    obtain ⟨z, inZs, there⟩ := second.2 y inYs
    exact ⟨z, inZs, same_trans_of_isMember (areMembers_iff.mp firm.1 x inXs) here there⟩
  | list | map => rw [IsFirm] at firm; exact firm.elim

end AccessPolicy.Value

import Callsite.Proofs.Language.ShippedFrames

set_option autoImplicit false
set_option maxRecDepth 8000

/-! The templates of the shipped tables. In each of them the slot is the whole of the first group, and the
rest of the text reads the same whatever fills the slot. -/

namespace Callsite

namespace Shipped

open RuleTemplate (slotted_of)

theorem generic_openers_slotted : ∀ template ∈ generic.typeOpeners, template.Slotted := by
  refine List.forall_mem_cons.mpr ⟨slotted_of rfl rfl (fun _ => rfl) (fun _ => rfl) rfl
    (fun _ _ => rfl) (fun _ _ => rfl) rfl rfl fun _ _ => rfl, ?_⟩
  exact List.forall_mem_nil _

theorem javascript_openers_slotted : ∀ template ∈ javascript.typeOpeners, template.Slotted := by
  refine List.forall_mem_cons.mpr ⟨slotted_of rfl rfl (fun _ => rfl) (fun _ => rfl) rfl
    (fun _ _ => rfl) (fun _ _ => rfl) rfl rfl fun _ _ => rfl, ?_⟩
  exact List.forall_mem_nil _

theorem typescript_openers_slotted : ∀ template ∈ typescript.typeOpeners, template.Slotted := by
  iterate 3 refine List.forall_mem_cons.mpr ⟨slotted_of rfl rfl (fun _ => rfl) (fun _ => rfl) rfl
    (fun _ _ => rfl) (fun _ _ => rfl) rfl rfl fun _ _ => rfl, ?_⟩
  exact List.forall_mem_nil _

theorem python_openers_slotted : ∀ template ∈ python.typeOpeners, template.Slotted := by
  refine List.forall_mem_cons.mpr ⟨slotted_of rfl rfl (fun _ => rfl) (fun _ => rfl) rfl
    (fun _ _ => rfl) (fun _ _ => rfl) rfl rfl fun _ _ => rfl, ?_⟩
  exact List.forall_mem_nil _

theorem java_openers_slotted : ∀ template ∈ java.typeOpeners, template.Slotted := by
  iterate 2 refine List.forall_mem_cons.mpr ⟨slotted_of rfl rfl (fun _ => rfl) (fun _ => rfl) rfl
    (fun _ _ => rfl) (fun _ _ => rfl) rfl rfl fun _ _ => rfl, ?_⟩
  exact List.forall_mem_nil _

theorem csharp_openers_slotted : ∀ template ∈ csharp.typeOpeners, template.Slotted := by
  iterate 3 refine List.forall_mem_cons.mpr ⟨slotted_of rfl rfl (fun _ => rfl) (fun _ => rfl) rfl
    (fun _ _ => rfl) (fun _ _ => rfl) rfl rfl fun _ _ => rfl, ?_⟩
  exact List.forall_mem_nil _

theorem go_openers_slotted : ∀ template ∈ go.typeOpeners, template.Slotted := by
  refine List.forall_mem_cons.mpr ⟨slotted_of rfl rfl (fun _ => rfl) (fun _ => rfl) rfl
    (fun _ _ => rfl) (fun _ _ => rfl) rfl rfl fun _ _ => rfl, ?_⟩
  exact List.forall_mem_nil _

theorem rust_openers_slotted : ∀ template ∈ rust.typeOpeners, template.Slotted := by
  iterate 3 refine List.forall_mem_cons.mpr ⟨slotted_of rfl rfl (fun _ => rfl) (fun _ => rfl) rfl
    (fun _ _ => rfl) (fun _ _ => rfl) rfl rfl fun _ _ => rfl, ?_⟩
  exact List.forall_mem_nil _

theorem cpp_openers_slotted : ∀ template ∈ cpp.typeOpeners, template.Slotted := by
  refine List.forall_mem_cons.mpr ⟨slotted_of rfl rfl (fun _ => rfl) (fun _ => rfl) rfl
    (fun _ _ => rfl) (fun _ _ => rfl) rfl rfl fun _ _ => rfl, ?_⟩
  exact List.forall_mem_nil _

theorem ruby_openers_slotted : ∀ template ∈ ruby.typeOpeners, template.Slotted := by
  refine List.forall_mem_cons.mpr ⟨slotted_of rfl rfl (fun _ => rfl) (fun _ => rfl) rfl
    (fun _ _ => rfl) (fun _ _ => rfl) rfl rfl fun _ _ => rfl, ?_⟩
  exact List.forall_mem_nil _

theorem php_openers_slotted : ∀ template ∈ php.typeOpeners, template.Slotted := by
  iterate 2 refine List.forall_mem_cons.mpr ⟨slotted_of rfl rfl (fun _ => rfl) (fun _ => rfl) rfl
    (fun _ _ => rfl) (fun _ _ => rfl) rfl rfl fun _ _ => rfl, ?_⟩
  exact List.forall_mem_nil _

theorem typeOpeners_slotted : ∀ table ∈ generic :: tables, ∀ template ∈ table.typeOpeners,
    template.Slotted := by
  simp only [tables, List.forall_mem_cons]
  exact ⟨generic_openers_slotted, javascript_openers_slotted, typescript_openers_slotted,
    python_openers_slotted, java_openers_slotted, csharp_openers_slotted, go_openers_slotted,
    rust_openers_slotted, cpp_openers_slotted, ruby_openers_slotted, php_openers_slotted,
    List.forall_mem_nil _⟩

theorem calls_eq : ∀ table ∈ generic :: tables, table.calls = callTemplates := by
  simp only [tables, List.forall_mem_cons]
  exact ⟨rfl, rfl, rfl, rfl, rfl, rfl, rfl, rfl, rfl, rfl, rfl, List.forall_mem_nil _⟩

theorem declarations_slotted : ∀ table ∈ generic :: tables, ∀ template ∈ table.declarations,
    template.Slotted := by
  simp only [tables, List.forall_mem_cons]
  exact ⟨generic_framed.slotted, javascript_framed.slotted, typescript_framed.slotted,
    python_framed.slotted, java_framed.slotted, csharp_framed.slotted, go_framed.slotted,
    rust_framed.slotted, cpp_framed.slotted, ruby_framed.slotted, php_framed.slotted,
    List.forall_mem_nil _⟩

theorem templates_slotted : ∀ table ∈ generic :: tables,
    ∀ template ∈ table.templates, template.Slotted := by
  intro table shipped
  rw [LanguageTable.templates, calls_eq table shipped, List.forall_mem_append, List.forall_mem_append]
  exact ⟨⟨declarations_slotted table shipped, typeOpeners_slotted table shipped⟩,
    slotted_of_framed callTemplates_framed⟩

end Shipped

end Callsite

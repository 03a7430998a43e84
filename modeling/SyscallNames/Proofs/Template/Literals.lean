import SyscallNames.Proofs.Template.Language
import SyscallNames.Template.Printer

set_option autoImplicit false

namespace SyscallNames.Template.Form

def literals (text : Text) : Form := text.map .literal

@[simp]
theorem text_append (t u : Form) : Form.text (t ++ u) = t.text ++ u.text := by
  simp only [text, pieces, List.map_append, List.flatMap_append]

@[simp]
theorem fields_append (t u : Form) : Form.fields (t ++ u) = t.fields ++ u.fields :=
  List.filterMap_append

@[simp]
theorem render_append (t u : Form) (name : Text) :
    Form.render (t ++ u) name = t.render name ++ u.render name :=
  List.flatMap_append

@[simp]
theorem text_literals (s : Text) : (literals s).text = escape s := by
  rw [text, pieces, literals, List.map_map, List.flatMap_map]
  rfl

@[simp]
theorem fields_literals (s : Text) : (literals s).fields = [] := by
  rw [fields, literals, List.filterMap_map]
  exact List.filterMap_eq_nil_iff.mpr fun _ _ => rfl

@[simp]
theorem render_literals (s name : Text) : (literals s).render name = s := by
  rw [render, literals, List.flatMap_map]
  exact List.flatMap_singleton' s

end SyscallNames.Template.Form

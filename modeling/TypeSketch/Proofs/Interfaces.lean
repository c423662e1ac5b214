import Mathlib.Data.List.Forall2
import TypeSketch.Proofs.Declaration

/-!
# Interfaces read back

The names in an interface stand there as they are. They may look like the separator, like the end of a
member or like the footer, and the indent may look like anything. The configuration and the last colon of
every line still tell what the members are.

* `Field.entry` : what an interface shows of a field;
* `memberOfLine`, `membersOfLines`, `membersOfInterface` : the members of an interface, from its text;
* `structuralName_plain` : a structural name has no colon and no line end;
* `membersOfInterface_block` : the members that are read are those that were written;
* `interfaceStyle_block_eq_iff` : so interfaces are the same text exactly if they have the same members.
-/

namespace TypeSketch

/-! ## Reading -/

/-- What an interface shows of a field: its name, and the structural name of its type. -/
def Field.entry (field : Field) : String × String := (field.name, field.ty.structuralName)

/-- The member of a line without indent and line end: what stands before the last colon, and what stands after it
without the blank there and the semicolon at the end. -/
def memberOfLine (line : List Char) : String × String :=
  let backwards := line.dropLast.reverse
  (.ofList (backwards.dropWhile (· ≠ ':')).tail.reverse, .ofList (backwards.takeWhile (· ≠ ':')).reverse.tail)

/-- The members of some lines, every line having so many characters of indent. What stands after the last line is not
looked at. -/
def membersOfLines (indent : Nat) (s : List Char) : List (String × String) :=
  match _ends : (s.drop indent).dropWhile (· ≠ '\n') with
  | [] => []
  | _ :: rest => memberOfLine ((s.drop indent).takeWhile (· ≠ '\n')) :: membersOfLines indent rest
termination_by s.length
decreasing_by
  have shorter := (List.dropWhile_sublist (· ≠ '\n') (l := s.drop indent)).length_le
  rw [_ends, List.length_cons, List.length_drop] at shorter
  omega

/-- The members of an interface, from its text. -/
def membersOfInterface (config : Config) (text : String) : List (String × String) :=
  membersOfLines config.interfaceIndent.toList.length
    (text.toList.drop ((interfaceStyle config).header.toList.length + 1))

/-! ## Lines -/

theorem structuralName_plain (ty : Ty) : ':' ∉ ty.structuralName.toList ∧ '\n' ∉ ty.structuralName.toList := by
  induction ty with
  | list item ih => simpa [Ty.structuralName] using ih
  | _ => constructor <;> simp [Ty.structuralName]

/-- The last colon of a line is the one that was written after the name. -/
theorem memberOfLine_append (name : List Char) {type : List Char} (plain : ':' ∉ type) :
    memberOfLine (name ++ [':', ' '] ++ type ++ [';']) = (.ofList name, .ofList type) := by
  have split : (name ++ [':', ' '] ++ type).reverse = (type.reverse ++ [' ']) ++ ':' :: name.reverse := by simp
  have before : ∀ c ∈ type.reverse ++ [' '], decide (c ≠ ':') = true := by
    intro c mem
    rcases List.mem_append.1 mem with mem | mem
    · exact decide_eq_true fun colon => plain (colon ▸ List.mem_reverse.1 mem)
    · rw [List.mem_singleton.1 mem]
      decide
  rw [memberOfLine, List.dropLast_concat, split, List.dropWhile_append_of_pos before,
    List.takeWhile_append_of_pos before]
  simp

/-- A line is as long as its first line end says. -/
theorem membersOfLines_append (indent : List Char) {line : List Char} (whole : '\n' ∉ line) (s : List Char) :
    membersOfLines indent.length (indent ++ line ++ '\n' :: s) = memberOfLine line :: membersOfLines indent.length s := by
  have before : ∀ c ∈ line, decide (c ≠ '\n') = true := fun c mem => decide_eq_true fun ends => whole (ends ▸ mem)
  have dropped : (indent ++ line ++ '\n' :: s).drop indent.length = line ++ '\n' :: s := by
    rw [List.append_assoc, List.drop_left]
  have taken : (line ++ '\n' :: s).takeWhile (· ≠ '\n') = line := by
    rw [List.takeWhile_append_of_pos before]
    simp
  have left : (line ++ '\n' :: s).dropWhile (· ≠ '\n') = '\n' :: s := by
    rw [List.dropWhile_append_of_pos before]
    simp
  rw [membersOfLines, dropped]
  split
  · next none =>
    rw [left] at none
    cases none
  · next ends =>
    obtain ⟨-, rfl⟩ := List.cons.inj (left.symm.trans ends)
    rw [taken]

theorem membersOfLines_footer (indent : Nat) : membersOfLines indent ['\x7d'] = [] := by
  rw [membersOfLines]
  split
  · rfl
  · next ends => cases indent <;> simp at ends

/-! ## Interfaces -/

section

variable (config : Config) {fields others : List Field}

theorem membersOfLines_lines (single : ∀ field ∈ fields, '\n' ∉ field.name.toList) :
    membersOfLines config.interfaceIndent.toList.length ((interfaceStyle config).lines fields ++ "\x7d").toList =
      fields.map Field.entry := by
  induction fields with
  | nil =>
    have text : ((interfaceStyle config).lines [] ++ "\x7d").toList = ['\x7d'] := by simp [Style.lines]
    rw [text, membersOfLines_footer, List.map_nil]
  | cons field fields ih =>
    rw [List.forall_mem_cons] at single
    obtain ⟨noColon, noEnd⟩ := structuralName_plain field.ty
    have whole : '\n' ∉ field.name.toList ++ [':', ' '] ++ field.ty.structuralName.toList ++ [';'] := by
      simpa using ⟨single.1, noEnd⟩
    have text : ((interfaceStyle config).lines (field :: fields) ++ "\x7d").toList =
        config.interfaceIndent.toList ++
          (field.name.toList ++ [':', ' '] ++ field.ty.structuralName.toList ++ [';']) ++
            '\n' :: ((interfaceStyle config).lines fields ++ "\x7d").toList := by
      simp [Style.lines, interfaceStyle, List.append_assoc]
    rw [text, membersOfLines_append _ whole, memberOfLine_append _ noColon, ih single.2, List.map_cons, Field.entry,
      String.ofList_toList, String.ofList_toList]

/-- **The members that are read** from an interface are those that were written. -/
theorem membersOfInterface_block (single : ∀ field ∈ fields, '\n' ∉ field.name.toList) :
    membersOfInterface config ((interfaceStyle config).block fields) = fields.map Field.entry := by
  have text : ((interfaceStyle config).block fields).toList =
      ((interfaceStyle config).header.toList ++ ['\n']) ++ ((interfaceStyle config).lines fields ++ "\x7d").toList := by
    simp [Style.block, interfaceStyle, List.append_assoc]
  have header : (interfaceStyle config).header.toList.length + 1 =
      ((interfaceStyle config).header.toList ++ ['\n']).length := by
    rw [List.length_append, List.length_singleton]
  rw [membersOfInterface, text, header, List.drop_left, membersOfLines_lines config single]

theorem map_entry_eq_iff : fields.map Field.entry = others.map Field.entry ↔
    List.Forall₂ (fun field other => field.name = other.name ∧ field.ty.structuralName = other.ty.structuralName)
      fields others := by
  rw [← List.forall₂_eq_eq_eq, List.forall₂_map_left_iff, List.forall₂_map_right_iff]
  simp only [Field.entry, Prod.mk.injEq]

/-- What an interface shows of its fields makes its text. -/
theorem interfaceStyle_block_eq (fields : List Field) : (interfaceStyle config).block fields =
    (interfaceStyle config).header ++ "\n" ++ String.join ((fields.map Field.entry).map fun entry =>
      config.interfaceIndent ++ entry.1 ++ ": " ++ entry.2 ++ ";" ++ "\n") ++ "\x7d" := by
  rw [Style.block, Style.lines_eq_join, List.map_map]
  rfl

/-- **Interfaces of one configuration are the same text** exactly if they have the same members, in the same order,
under the same structural names; and the members can be read back from the text. -/
theorem interfaceStyle_block_eq_iff (single : ∀ field ∈ fields, '\n' ∉ field.name.toList)
    (single' : ∀ field ∈ others, '\n' ∉ field.name.toList) :
    ((interfaceStyle config).block fields = (interfaceStyle config).block others ↔
      List.Forall₂ (fun field other => field.name = other.name ∧ field.ty.structuralName = other.ty.structuralName)
        fields others) ∧
    membersOfInterface config ((interfaceStyle config).block fields) =
      fields.map fun field => (field.name, field.ty.structuralName) := by
  refine ⟨?_, membersOfInterface_block config single⟩
  rw [← map_entry_eq_iff]
  constructor
  · intro same
    rw [← membersOfInterface_block config single, same, membersOfInterface_block config single']
  · intro same
    rw [interfaceStyle_block_eq, interfaceStyle_block_eq, same]

end

/-- A configuration whose indent looks like a member and a footer. -/
def deceptive : Config := { interfaceName := "a \x7b\n  b", interfaceIndent := "b: any;\n\x7d" }

/-- A name with all that ends a name. -/
theorem interfaceStyle_block_eq_iff_deceptive :
    (∀ field ∈ [Field.mk "a: any;\x7d" .integer, .mk "" .null], '\n' ∉ field.name.toList) ∧
    (∀ field ∈ [Field.mk "a: any;\x7d" .float, .mk "" .unknown], '\n' ∉ field.name.toList) ∧
    (interfaceStyle deceptive).block [.mk "a: any;\x7d" .integer, .mk "" .null] =
      (interfaceStyle deceptive).block [.mk "a: any;\x7d" .float, .mk "" .unknown] ∧
    membersOfInterface deceptive ((interfaceStyle deceptive).block [.mk "a: any;\x7d" .integer, .mk "" .null]) =
      [("a: any;\x7d", "number"), ("", "any")] := by
  have single : ∀ field ∈ [Field.mk "a: any;\x7d" .integer, .mk "" .null], '\n' ∉ field.name.toList := by decide
  have single' : ∀ field ∈ [Field.mk "a: any;\x7d" .float, .mk "" .unknown], '\n' ∉ field.name.toList := by decide
  obtain ⟨same, read⟩ := interfaceStyle_block_eq_iff deceptive single single'
  exact ⟨single, single', same.2 (.cons ⟨rfl, rfl⟩ (.cons ⟨rfl, rfl⟩ .nil)), read⟩

/-- A name with a line end can look like two members. -/
example : (interfaceStyle {}).block [⟨"a: any;\n  b", .null⟩] = (interfaceStyle {}).block [⟨"a", .null⟩, ⟨"b", .null⟩] := by
  decide +kernel

end TypeSketch

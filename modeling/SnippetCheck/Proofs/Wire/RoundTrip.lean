import Mathlib.Tactic.SplitIfs
import SnippetCheck.Proofs.Wire.Records

namespace SnippetCheck

open Json
open Json.Reader

variable {levels : Nat}

namespace Node

/-- What becomes of a tree when so many brackets may be opened for it. Every level of the tree
takes two, but the list of children of a leaf is not written. -/
def within (levels : Nat) (node : Node) : Except Fault Node :=
  if 2 * node.height ≤ levels + 1 then .ok node else .error .tooDeep

theorem toJsonAll_eq (nodes : List Node) : toJsonAll nodes = nodes.map toJson := by
  induction nodes with
  | nil => rfl
  | cons node nodes ih => rw [toJsonAll, ih, List.map_cons]

theorem mapM_within (nodes : List Node) :
    nodes.mapM (within levels) =
      if 2 * heightOfAll nodes ≤ levels + 1 then .ok nodes else .error .tooDeep := by
  induction nodes with
  | nil => rfl
  | cons node nodes ih =>
    rw [List.mapM_cons, ih, within, heightOfAll]
    have : 2 * max node.height (heightOfAll nodes) ≤ levels + 1 ↔
        2 * node.height ≤ levels + 1 ∧ 2 * heightOfAll nodes ≤ levels + 1 := by omega
    by_cases first : 2 * node.height ≤ levels + 1 <;>
      by_cases others : 2 * heightOfAll nodes ≤ levels + 1 <;>
      simp only [this, first, others] <;> rfl

theorem map_within (kind : NodeKind) (value : String) (line : UInt32) (nodes : List Node) :
    (if 2 * heightOfAll nodes < levels then .ok nodes else .error .tooDeep :
      Except Fault (List Node)).map (mk kind value line) =
        within levels (mk kind value line nodes) := by
  have : 2 * (heightOfAll nodes + 1) ≤ levels + 1 ↔ 2 * heightOfAll nodes < levels := by omega
  rw [within, height]
  by_cases enough : 2 * heightOfAll nodes < levels <;> simp only [this, enough] <;> rfl

section Fields

variable {children : Reader (List Node)} {inner : Nat} {record : Node} {nodes : List Node}
  {result : Except Fault (List Node)}

/-- The last two fields of a node, the children left out if there are none. -/
theorem fills_children (inner : Nat) (line : UInt32)
    (decodesChildren : nodes ≠ [] → Decodes children (.array (toJsonAll nodes)) result)
    (leaf : nodes = [] → result = .ok record.children) :
    Fills ((shape children inner).fields.drop 2)
      ((if nodes.isEmpty then [] else [("children", .array (toJsonAll nodes))]) ++
        [("line", .number line.toNat)])
      record (result.map (mk record.kind record.value line)) := by
  have last (record : Node) : Fills ((shape children inner).fields.drop 3)
      [("line", .number line.toNat)] record
      (.ok (mk record.kind record.value line record.children)) :=
    .read ((decodes_word32 line).map _) .done
  cases nodes with
  | nil =>
    rw [leaf rfl]
    exact .omitted rfl (last record)
  | cons node nodes =>
    have read := decodesChildren (List.cons_ne_nil node nodes)
    cases result with
    | error fault => exact .stopped (read.map _)
    | ok all => exact .read (read.map _) (last _)

/-- A node is read with what becomes of its children. -/
theorem decodes_shape (inner : Nat) (room : levels ≠ 0) (kind : NodeKind) (value : String)
    (line : UInt32)
    (decodesChildren : nodes ≠ [] → Decodes children (.array (toJsonAll nodes)) result)
    (leaf : nodes = [] → result = .ok []) :
    Decodes ((shape children inner).reader levels) (mk kind value line nodes).toJson
      (result.map (mk kind value line)) := by
  refine Shape.decodes_reader (by simp [shape]) room ?_
  rw [List.append_assoc, List.append_assoc]
  refine .read (kind.decodes.map _) ?_
  by_cases empty : value.isEmpty = true
  · rw [if_pos empty, String.isEmpty_iff.1 empty]
    exact .omitted rfl (fills_children inner line decodesChildren leaf)
  · rw [if_neg empty]
    exact .read ((decodes_string value).map _) (fills_children inner line decodesChildren leaf)

end Fields

/-- A tree is read back if there are brackets enough for it, and is refused as too deep if there
are not. With one bracket none is left for a list of children, so only a leaf can be read. -/
theorem decodes : ∀ (levels : Nat) (node : Node),
    Decodes (reader levels) node.toJson (node.within levels)
  | 0, mk kind value line nodes => by
    rw [within, if_neg (by simp only [height]; omega)]
    exact Shape.decodes_reader_tooDeep _ _
  | 1, mk kind value line nodes => by
    rw [← map_within]
    refine decodes_shape 0 (by decide) kind value line (fun some => ?_) (by rintro rfl; rfl)
    obtain ⟨node, nodes, rfl⟩ := List.exists_cons_of_ne_nil some
    have := node.height_pos
    rw [if_neg (by simp only [heightOfAll]; omega)]
    exact decodes_list_tooDeep _ _
  | levels + 2, mk kind value line nodes => by
    have children : Decodes (list (fun _ => reader levels) (levels + 1)) (.array (toJsonAll nodes))
        (if 2 * heightOfAll nodes < levels + 2 then .ok nodes else .error .tooDeep) := by
      have each : Decodes (list (fun _ => reader levels) (levels + 1))
          (.array (nodes.map toJson)) (nodes.mapM (within levels)) :=
        decodes_list nodes (by omega) fun node _ => decodes levels node
      rw [mapM_within] at each
      simpa [toJsonAll_eq, Nat.lt_succ_iff] using each
    rw [← map_within]
    exact decodes_shape (levels + 1) (by omega) kind value line (fun _ => children)
      (by rintro rfl; rfl)

end Node

theorem TreeReport.decodes (report : TreeReport) (room : 2 ≤ levels) :
    Decodes (TreeReport.reader levels) report.toJson
      ((report.tree.within (levels - 1)).map fun tree => { report with tree }) := by
  refine Shape.decodes_reader (by simp [TreeReport.shape]) (by omega) ?_
  have errors : Decodes (Reader.list (fun _ => Reader.string) (levels - 1))
      (.strings report.errors) (.ok report.errors) :=
    decodes_strings _ (by omega)
  have tree := report.tree.decodes (levels - 1)
  refine .read ((decodes_bool _).map _) <| .read (errors.map _) ?_
  cases whole : report.tree.within (levels - 1) with
  | error fault =>
    rw [whole] at tree
    exact .stopped (tree.map _)
  | ok read =>
    rw [whole] at tree
    exact .read (tree.map _) .done

/-- What a report becomes on its way: nothing is lost but the hard errors, which are not written. -/
def Report.onWire (report : Report) : Report :=
  { report with semantic := { report.semantic with errors := [] } }

theorem Report.decodes (report : Report) (room : 4 ≤ levels) :
    Decodes (Report.reader levels) report.toJson
      (if 2 * report.syntactic.tree.height < levels then .ok report.onWire
        else .error .tooDeep) := by
  refine Shape.decodes_reader (by simp [Report.shape]) (by omega) ?_
  have inner : 3 ≤ levels - 1 := by omega
  have lexical := report.lexical.decodes inner
  have syntactic := report.syntactic.decodes (Nat.le_of_lt inner)
  have semantic := report.semantic.decodes inner
  have enough : 2 * report.syntactic.tree.height ≤ levels - 1 - 1 + 1 ↔
      2 * report.syntactic.tree.height < levels := by omega
  simp only [Node.within, enough] at syntactic
  refine .read (lexical.map _) ?_
  split_ifs with fits
  · rw [if_pos fits] at syntactic
    exact .read (syntactic.map _) <| .read (semantic.map _) <| .read ((decodes_bool _).map _) <|
      .read ((decodes_string _).map _) .done
  · rw [if_neg fits] at syntactic
    exact .stopped (syntactic.map _)

/-- Both ways a value is written, without blanks and with indentation, are read to the same. -/
def Json.Reader.ReadsBack {α : Type} (reader : Reader α) (json : Json) (result : Except Fault α) :
    Prop :=
  reader.run json.compact = result ∧ reader.run json.indented = result

theorem Json.Reader.Decodes.readsBack {α : Type} {reader : Reader α} {json : Json}
    {result : Except Fault α} (decodes : Decodes reader json result) :
    reader.ReadsBack json result := by
  have whole {text : List Char} (spells : Spells json text) :
      reader.run (String.ofList text) = result := by
    apply run_eq_of_outcome
    simpa using decodes spells endsNumber_nil
  exact ⟨whole (spells_write json), whole (spells_writeIndented 0 json)⟩

/-- The wire format loses nothing. A report comes back without its hard errors, which are not
written, if its tree has no more than 63 levels, and is refused if it has: every level takes two of
the brackets that may be open, and two stand around the tree. -/
theorem wire_readsBack :
    (∀ report : Report, (Report.reader maxLevels).ReadsBack report.toJson
      (if report.syntactic.tree.height ≤ 63 then .ok report.onWire else .error .tooDeep)) ∧
    (∀ token : Token, (Token.reader maxLevels).ReadsBack token.toJson (.ok token)) ∧
    (∀ report : TokenReport, (TokenReport.reader maxLevels).ReadsBack report.toJson (.ok report)) ∧
    (∀ symbol : Symbol, (Symbol.reader maxLevels).ReadsBack symbol.toJson (.ok symbol)) ∧
    (∀ verdict : Verdict, (Verdict.reader maxLevels).ReadsBack verdict.toJson (.ok verdict)) ∧
    (∀ request : Request, (Request.reader maxLevels).ReadsBack request.toJson (.ok request)) ∧
    (∀ settings : Settings, Settings.ofText settings.toJson.compact = .ok settings ∧
      Settings.ofText settings.toJson.indented = .ok settings) := by
  refine ⟨fun report => ?_, fun token => (token.decodes (by decide)).readsBack,
    fun report => (report.decodes (by decide)).readsBack,
    fun symbol => (symbol.decodes (by decide)).readsBack,
    fun verdict => (verdict.decodes (by decide)).readsBack,
    fun request => (request.decodes (by decide)).readsBack, fun settings => ?_⟩
  · have decodes := report.decodes (show 4 ≤ maxLevels by decide)
    have enough : 2 * report.syntactic.tree.height < maxLevels ↔
        report.syntactic.tree.height ≤ 63 := by rw [maxLevels]; omega
    simp only [enough] at decodes
    exact decodes.readsBack
  · obtain ⟨compact, indented⟩ := (settings.decodes (show 3 ≤ maxLevels by decide)).readsBack
    rw [Settings.ofText, Settings.ofText, compact, indented]
    exact ⟨rfl, rfl⟩

end SnippetCheck

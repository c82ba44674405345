import Mathlib.Data.List.Perm.Subperm
import Threadwire.Collections.Generations
import Threadwire.Collections.OrderedMap
import Threadwire.Readiness.ReadinessGates
import Threadwire.Text.Utf8
import Threadwire.Turn.TurnExecutor

/-!
# Recognition of the known notice

`observeBlockingNotice` of `cdp/KnownFreshNotice.ts`. The nodes of the accessibility tree come from
the page as a list, and their child ids can name anything, so the walk below the dialog stops at an
id that it has seen and at one without a node. It ends because it sees each node at most once.

`IsKnownFreshNotice` says without a walk which lists hold the notice: below the dialog the ids form a
tree, in which the heading and the two buttons are the only ones.
-/

namespace Threadwire

/-- The `value` of an `AXValue`. -/
inductive AxValue where
  | text (value : Text)
  | boolean (value : Bool)
  | other
deriving DecidableEq, Repr

/-- An `AXProperty`. -/
structure AxProperty where
  name : Text
  value : Option AxValue
deriving DecidableEq, Repr

/-- An `AXNode`: what the recognition reads of it. -/
structure AxNode where
  nodeId : Text
  ignored : Bool := false
  role : Option AxValue := none
  name : Option AxValue := none
  properties : List AxProperty := []
  childIds : Option (List Text) := none
  backendDOMNodeId : Option Rat := none
deriving DecidableEq, Repr

namespace AxNode

/-- Whether the role is this one. -/
def hasRole (node : AxNode) (role : String) : Bool := node.role == some (.text (Text.of role))

/-- Whether the name is this one. -/
def hasName (node : AxNode) (name : String) : Bool := node.name == some (.text (Text.of name))

/-- The condition of the filter for the dialogs. -/
def isDialog (node : AxNode) : Bool :=
  !node.ignored && (node.hasRole "dialog" || node.hasRole "alertdialog")

/-- Whether the node has the property `disabled`. -/
def isDisabled (node : AxNode) : Bool :=
  node.properties.any fun p => p.name == Text.of "disabled" && p.value == some (.boolean true)

/-- A `backendDOMNodeId` that is a positive safe integer. -/
def safeBackendId (node : AxNode) : Option Rat :=
  node.backendDOMNodeId.filter fun id => isSafeInteger id && 0 < id

end AxNode

namespace KnownFreshNotice

/-- `new Map(nodes.map((n) => [n.nodeId, n]))`. -/
def nodeMap (nodes : List AxNode) : OrderedMap Text AxNode :=
  .ofEntries (nodes.map fun node => (node.nodeId, node))

/-- The ids of the map that have not been seen. -/
def unseen (map : OrderedMap Text AxNode) (seen : List Text) : List Text :=
  map.keys.filter fun id => id ∉ seen

theorem unseen_cons_lt {map : OrderedMap Text AxNode} {seen : List Text} {id : Text}
    {node : AxNode} (hseen : id ∉ seen) (hnode : map.get? id = some node) :
    (unseen map (id :: seen)).length < (unseen map seen).length := by
  have hkey : id ∈ map.keys := (map.mem_keys id).mpr ⟨node, hnode⟩
  have hsplit : unseen map (id :: seen) = (unseen map seen).filter fun other => other ≠ id := by
    rw [unseen, unseen, List.filter_filter]
    refine List.filter_congr fun other _ => ?_
    simp [not_or]
  rw [hsplit]
  refine List.length_filter_lt_length_iff_exists.mpr ⟨id, ?_, by simp⟩
  exact List.mem_filter.mpr ⟨hkey, by simpa using hseen⟩

/-- The loop that collects the subtree of the dialog; `none` where it returns `UNKNOWN`. The next
pending id is the last one of the array, which is the first one here. -/
def collectSubtree (map : OrderedMap Text AxNode) (seen : List Text) :
    List Text → Option (List AxNode)
  | [] => some []
  | id :: pending =>
    if _hseen : id ∈ seen then none
    else
      match _hnode : map.get? id with
      | none => none
      | some node =>
        (collectSubtree map (id :: seen) ((node.childIds.getD []).reverse ++ pending)).map
          fun subtree => node :: subtree
termination_by (unseen map seen).length
decreasing_by exact unseen_cons_lt _hseen _hnode

/-- The checks of what is in the subtree. -/
def recognize (dialog : AxNode) (subtree : List AxNode) : BlockingNotice :=
  let visible := subtree.filter fun node => !node.ignored
  let headings := visible.filter fun node => node.hasRole "heading"
  let buttons := visible.filter fun node => node.hasRole "button"
  let close := buttons.filter fun node => node.hasName "Fechar"
  let upgrade := buttons.filter fun node => node.hasName "Fazer upgrade agora"
  match headings, close with
  | [heading], [closeButton] =>
    if !heading.hasName "Conheça o novo ChatGPT" || buttons.length != 2 || upgrade.length != 1 ||
        closeButton.isDisabled then
      .UNKNOWN
    else
      match dialog.safeBackendId, closeButton.safeBackendId with
      | some dialogId, some closeButtonId => .KNOWN_FRESH_NOTICE dialogId closeButtonId
      | _, _ => .UNKNOWN
  | _, _ => .UNKNOWN

/-- `observeBlockingNotice`. -/
def observeBlockingNotice (nodes : List AxNode) : BlockingNotice :=
  match nodes.filter AxNode.isDialog with
  | [] => .ABSENT
  | [dialog] =>
    if !dialog.hasRole "dialog" then .UNKNOWN
    else if (nodeMap nodes).size != nodes.length then .UNKNOWN
    else
      match collectSubtree (nodeMap nodes) [] [dialog.nodeId] with
      | none => .UNKNOWN
      | some subtree => recognize dialog subtree
  | _ => .UNKNOWN

/-! ## What the notice is -/

/-- The child ids of the node with this id. -/
def children (nodes : List AxNode) (id : Text) : Option (List Text) :=
  (nodes.find? fun node => node.nodeId = id).map fun node => node.childIds.getD []

/-- The node can be reached from the dialog and is not ignored. -/
structure IsShown (nodes : List AxNode) (dialog node : AxNode) : Prop where
  mem : node ∈ nodes
  below : Relation.ReflTransGen (Generations.IsChild (children nodes)) dialog.nodeId node.nodeId
  visible : node.ignored = false

/-- The node has this backend id, which is a positive safe integer. -/
def HasBackendId (node : AxNode) (id : Rat) : Prop :=
  node.backendDOMNodeId = some id ∧ isSafeInteger id = true ∧ 0 < id

/-- The nodes show the known notice, which is this dialog with this close button. -/
structure IsKnownFreshNotice (nodes : List AxNode) (dialog closeButton : AxNode) : Prop where
  dialogs : ∀ node, node ∈ nodes ∧ node.isDialog = true ↔ node = dialog
  role : dialog.hasRole "dialog" = true
  distinct : (nodes.map AxNode.nodeId).Nodup
  tree : Generations.IsForest (children nodes) [dialog.nodeId]
  heading : ∃ heading, heading.hasName "Conheça o novo ChatGPT" = true ∧
    ∀ node, IsShown nodes dialog node ∧ node.hasRole "heading" = true ↔ node = heading
  buttons : ∃ upgrade, upgrade.hasName "Fazer upgrade agora" = true ∧
    ∀ node, IsShown nodes dialog node ∧ node.hasRole "button" = true ↔
      node = closeButton ∨ node = upgrade
  close : closeButton.hasName "Fechar" = true
  enabled : closeButton.isDisabled = false

/-! ## The walk -/

section Walk

variable {nodes : List AxNode} {map : OrderedMap Text AxNode} {seen pending : List Text}

theorem size_nodeMap :
    (nodeMap nodes).size = nodes.length ↔ (nodes.map AxNode.nodeId).Nodup := by
  have hsize := (OrderedMap.size_ofEntries (nodes.map fun node => (node.nodeId, node))).2
  rw [List.length_map, List.map_map] at hsize
  exact hsize

theorem get?_nodeMap (h : (nodes.map AxNode.nodeId).Nodup) {id : Text} {node : AxNode} :
    (nodeMap nodes).get? id = some node ↔ node ∈ nodes ∧ node.nodeId = id := by
  have hkeys : ((nodes.map fun node => (node.nodeId, node)).map Prod.fst).Nodup := by
    rw [List.map_map]
    exact h
  rw [nodeMap, OrderedMap.get?_ofEntries hkeys, List.mem_map]
  constructor
  · rintro ⟨other, hmem, heq⟩
    cases heq
    exact ⟨hmem, rfl⟩
  · rintro ⟨hmem, rfl⟩
    exact ⟨node, hmem, rfl⟩

/-- The map has the children that the list says. -/
theorem children_eq (h : (nodes.map AxNode.nodeId).Nodup) (id : Text) :
    children nodes id = ((nodeMap nodes).get? id).map fun node => node.childIds.getD [] := by
  rw [children]
  congr 1
  cases hfind : nodes.find? fun node => node.nodeId = id with
  | none =>
    cases hget : (nodeMap nodes).get? id with
    | none => rfl
    | some node =>
      obtain ⟨hmem, hid⟩ := (get?_nodeMap h).mp hget
      exact absurd (decide_eq_true hid) (List.find?_eq_none.mp hfind node hmem)
  | some node =>
    have hid : node.nodeId = id := by simpa using List.find?_some hfind
    exact ((get?_nodeMap h).mpr ⟨List.mem_of_find?_eq_some hfind, hid⟩).symm

/-- The loop is a traversal of the ids. -/
theorem explores_collectSubtree {nodeChildren : Text → Option (List Text)}
    (hchildren : ∀ id, nodeChildren id = (map.get? id).map fun node => node.childIds.getD [])
    (hmap : ∀ id node, map.get? id = some node → node.nodeId = id) :
    Generations.Explores nodeChildren seen pending
      ((collectSubtree map seen pending).map fun subtree => subtree.map AxNode.nodeId) := by
  fun_induction collectSubtree map seen pending with
  | case1 seen => exact .finished seen
  | case2 seen id pending hseen => exact .again hseen
  | case3 seen id pending hseen hnone =>
    refine .missing ?_
    rw [hchildren, hnone, Option.map_none]
  | case4 seen id pending hseen node hnode ih =>
    have hvisit := Generations.Explores.visit (a := id) hseen
      (by rw [hchildren, hnode, Option.map_some]) (List.reverse_perm _) ih
    rw [Option.map_map] at hvisit ⊢
    convert hvisit using 2
    exact funext fun subtree => by rw [Function.comp, List.map_cons, hmap id node hnode]; rfl

theorem mem_collectSubtree {subtree : List AxNode} {node : AxNode}
    (h : collectSubtree map seen pending = some subtree) (hmem : node ∈ subtree) :
    ∃ id, map.get? id = some node := by
  fun_induction collectSubtree map seen pending generalizing subtree with
  | case1 => cases h; cases hmem
  | case2 => cases h
  | case3 => cases h
  | case4 seen id pending hseen visited hvisited ih =>
    obtain ⟨rest, hrest, rfl⟩ := Option.map_eq_some_iff.mp h
    rcases List.mem_cons.mp hmem with rfl | hmem
    · exact ⟨id, hvisited⟩
    · exact ih hrest hmem

/-- The walk below the dialog succeeds on trees, and collects each node below the dialog once. -/
theorem collectSubtree_spec (h : (nodes.map AxNode.nodeId).Nodup) (root : Text) :
    ((collectSubtree (nodeMap nodes) [] [root]).isSome = true ↔
        Generations.IsForest (children nodes) [root]) ∧
      ∀ subtree, collectSubtree (nodeMap nodes) [] [root] = some subtree → subtree.Nodup ∧
        ∀ node, node ∈ subtree ↔ node ∈ nodes ∧
          Relation.ReflTransGen (Generations.IsChild (children nodes)) root node.nodeId := by
  have hmap : ∀ id node, (nodeMap nodes).get? id = some node → node.nodeId = id :=
    fun id node hget => ((get?_nodeMap h).mp hget).2
  have hexplores : Generations.Explores (children nodes) [] [root] _ :=
    explores_collectSubtree (children_eq h) hmap
  obtain ⟨hsome, hvisited⟩ := hexplores.spec
  rw [Option.isSome_map, Generations.clean_iff] at hsome
  refine ⟨?_, fun subtree hsubtree => ?_⟩
  · rw [hsome, and_iff_left fun _ _ _ => List.not_mem_nil]
  rw [hsubtree] at hvisited
  obtain ⟨hnodup, hmem⟩ := hvisited _ rfl
  refine ⟨hnodup.of_map _, fun node => ?_⟩
  have hreach : node.nodeId ∈ subtree.map AxNode.nodeId ↔
      Relation.ReflTransGen (Generations.IsChild (children nodes)) root node.nodeId := by
    rw [hmem, Generations.exists_mem_generation]
    simp
  rw [← hreach]
  constructor
  · intro hnode
    obtain ⟨id, hget⟩ := mem_collectSubtree hsubtree hnode
    exact ⟨((get?_nodeMap h).mp hget).1, List.mem_map_of_mem hnode⟩
  · -- The node with that id in the subtree is the one in the list.
    rintro ⟨hnode, hid⟩
    obtain ⟨other, hother, heq⟩ := List.mem_map.mp hid
    obtain ⟨id, hget⟩ := mem_collectSubtree hsubtree hother
    have hsame := List.inj_on_of_nodup_map h ((get?_nodeMap h).mp hget).1 hnode heq
    rwa [← hsame]

end Walk

/-! ## Unique elements -/

section Unique

variable {α : Type} {l : List α}

theorem filter_eq_singleton (h : l.Nodup) {p : α → Bool} {a : α} :
    l.filter p = [a] ↔ ∀ b, b ∈ l ∧ p b = true ↔ b = a := by
  rw [← List.perm_singleton, List.perm_ext_iff_of_nodup (h.filter p) (List.nodup_singleton a)]
  exact forall_congr' fun b => by rw [List.mem_filter, List.mem_singleton]

/-- A list of two elements of which one has the first property and one has the second. -/
theorem pair_iff (h : l.Nodup) {p q : α → Bool} (hexclusive : ∀ b, p b = true → q b = false)
    {a : α} : l.filter p = [a] ∧ l.length = 2 ∧ (l.filter q).length = 1 ↔
      p a = true ∧ ∃ b, q b = true ∧ ∀ c, c ∈ l ↔ c = a ∨ c = b := by
  constructor
  · rintro ⟨hp, hlength, hq⟩
    obtain ⟨b, hb⟩ := List.length_eq_one_iff.mp hq
    obtain ⟨ha, hpa⟩ := ((filter_eq_singleton h).mp hp a).mpr rfl
    obtain ⟨hbmem, hqb⟩ := ((filter_eq_singleton h).mp hb b).mpr rfl
    have hne : a ≠ b := by
      rintro rfl
      rw [hexclusive a hpa] at hqb
      cases hqb
    have hpair : [a, b].Nodup := by simp [hne]
    have hsub : [a, b] ⊆ l := by
      intro c hc
      rcases List.mem_cons.mp hc with rfl | hc
      · exact ha
      · rwa [List.mem_singleton.mp hc]
    -- Two distinct elements in a list of two are all of it.
    have hperm := (hpair.subperm hsub).perm_of_length_le (Nat.le_of_eq hlength)
    refine ⟨hpa, b, hqb, fun c => ?_⟩
    rw [← hperm.mem_iff, List.mem_cons, List.mem_singleton]
  · rintro ⟨hpa, b, hqb, hmem⟩
    have hne : b ≠ a := by
      rintro rfl
      rw [hexclusive b hpa] at hqb
      cases hqb
    have hpb : p b ≠ true := by
      intro hpb
      rw [hexclusive b hpb] at hqb
      cases hqb
    have hpair : [a, b].Nodup := by simp [Ne.symm hne]
    have hperm : l.Perm [a, b] := by
      rw [List.perm_ext_iff_of_nodup h hpair]
      intro c
      rw [hmem, List.mem_cons, List.mem_singleton]
    refine ⟨?_, hperm.length_eq, ?_⟩
    · rw [filter_eq_singleton h]
      intro c
      rw [hmem]
      constructor
      · rintro ⟨rfl | rfl, hpc⟩
        · rfl
        · exact absurd hpc hpb
      · rintro rfl
        exact ⟨.inl rfl, hpa⟩
    · rw [(hperm.filter q).length_eq, List.filter_cons_of_neg (by simp [hexclusive a hpa]),
        List.filter_cons_of_pos hqb]
      rfl

end Unique

/-! ## The recognition -/

section Recognition

variable {nodes subtree : List AxNode} {dialog : AxNode} {dialogId closeButtonId : Rat}

/-- The checks, where all of them pass. -/
theorem recognize_eq_known {visible buttons : List AxNode}
    (hvisible : visible = subtree.filter fun node => !node.ignored)
    (hbuttons : buttons = visible.filter fun node => node.hasRole "button") :
    recognize dialog subtree = .KNOWN_FRESH_NOTICE dialogId closeButtonId ↔
      ∃ heading closeButton,
        (visible.filter fun node => node.hasRole "heading") = [heading] ∧
        heading.hasName "Conheça o novo ChatGPT" = true ∧
        ((buttons.filter fun node => node.hasName "Fechar") = [closeButton] ∧ buttons.length = 2 ∧
          (buttons.filter fun node => node.hasName "Fazer upgrade agora").length = 1) ∧
        closeButton.isDisabled = false ∧ dialog.safeBackendId = some dialogId ∧
        closeButton.safeBackendId = some closeButtonId := by
  rw [recognize, ← hvisible, ← hbuttons]
  constructor
  · intro h
    split at h
    · rename_i heading closeButton hheadings hclose
      split at h
      · cases h
      rename_i hchecks
      simp only [Bool.or_eq_true, not_or, Bool.not_eq_true', Bool.not_eq_false, bne_iff_ne, ne_eq,
        not_not, Bool.not_eq_true] at hchecks
      obtain ⟨⟨⟨hname, hlength⟩, hupgrade⟩, henabled⟩ := hchecks
      split at h
      · rename_i hdialog hcloseId
        cases h
        exact ⟨heading, closeButton, hheadings, hname, ⟨hclose, hlength, hupgrade⟩, henabled,
          hdialog, hcloseId⟩
      · cases h
    · cases h
  · rintro ⟨heading, closeButton, hheadings, hname, ⟨hclose, hlength, hupgrade⟩, henabled, hdialog,
      hcloseId⟩
    simp only [hheadings, hclose, hname, hlength, hupgrade, henabled, hdialog, hcloseId]
    rfl

theorem recognize_ne_absent : recognize dialog subtree ≠ .ABSENT := by
  rw [recognize]
  intro h
  split at h
  · split at h
    · cases h
    · split at h <;> cases h
  · cases h

theorem hasName_exclusive {name other : String} (hne : Text.of name ≠ Text.of other)
    (node : AxNode) (h : node.hasName name = true) : node.hasName other = false := by
  unfold AxNode.hasName at h ⊢
  rw [beq_iff_eq] at h
  rw [h, beq_eq_false_iff_ne]
  exact fun heq => hne (AxValue.text.inj (Option.some.inj heq))

theorem safeBackendId_eq_some {node : AxNode} {id : Rat} :
    node.safeBackendId = some id ↔ HasBackendId node id := by
  rw [AxNode.safeBackendId, Option.filter_eq_some_iff, HasBackendId, Bool.and_eq_true,
    decide_eq_true_iff]

/-- The checks of the subtree, said of the list of nodes. -/
theorem recognize_known_iff (hdistinct : (nodes.map AxNode.nodeId).Nodup)
    (hsubtree : collectSubtree (nodeMap nodes) [] [dialog.nodeId] = some subtree) :
    recognize dialog subtree = .KNOWN_FRESH_NOTICE dialogId closeButtonId ↔
      ∃ closeButton,
        (∃ heading, heading.hasName "Conheça o novo ChatGPT" = true ∧
          ∀ node, IsShown nodes dialog node ∧ node.hasRole "heading" = true ↔ node = heading) ∧
        (∃ upgrade, upgrade.hasName "Fazer upgrade agora" = true ∧
          ∀ node, IsShown nodes dialog node ∧ node.hasRole "button" = true ↔
            node = closeButton ∨ node = upgrade) ∧
        closeButton.hasName "Fechar" = true ∧ closeButton.isDisabled = false ∧
        HasBackendId dialog dialogId ∧ HasBackendId closeButton closeButtonId := by
  obtain ⟨hnodup, hmem⟩ := (collectSubtree_spec hdistinct dialog.nodeId).2 subtree hsubtree
  have hvisible := hnodup.filter fun node => !node.ignored
  have hshown : ∀ node, node ∈ (subtree.filter fun node => !node.ignored) ↔
      IsShown nodes dialog node := by
    intro node
    rw [List.mem_filter, hmem, Bool.not_eq_true', and_assoc]
    exact ⟨fun h => ⟨h.1, h.2.1, h.2.2⟩, fun h => ⟨h.mem, h.below, h.visible⟩⟩
  have hbutton : ∀ node, node ∈ ((subtree.filter fun node => !node.ignored).filter
      fun node => node.hasRole "button") ↔
        IsShown nodes dialog node ∧ node.hasRole "button" = true := by
    intro node
    rw [List.mem_filter, hshown]
  have hnames : Text.of "Fechar" ≠ Text.of "Fazer upgrade agora" := by decide
  rw [recognize_eq_known rfl rfl]
  simp only [filter_eq_singleton hvisible, hshown,
    pair_iff (hvisible.filter _) (hasName_exclusive hnames), hbutton, safeBackendId_eq_some]
  constructor
  · rintro ⟨heading, closeButton, hheading, hname, ⟨hclose, hbuttons⟩, henabled, hids⟩
    exact ⟨closeButton, ⟨heading, hname, hheading⟩, hbuttons, hclose, henabled, hids⟩
  · rintro ⟨closeButton, ⟨heading, hname, hheading⟩, hbuttons, hclose, henabled, hids⟩
    exact ⟨heading, closeButton, hheading, hname, ⟨hclose, hbuttons⟩, henabled, hids⟩

/-- What is returned where there is a dialog. -/
theorem observe_of_dialog (hdialog : nodes.filter AxNode.isDialog ≠ []) :
    observeBlockingNotice nodes ≠ .ABSENT ∧
      ∀ dialogId closeButtonId,
        observeBlockingNotice nodes = .KNOWN_FRESH_NOTICE dialogId closeButtonId ↔
          ∃ dialog subtree, nodes.filter AxNode.isDialog = [dialog] ∧
            dialog.hasRole "dialog" = true ∧ (nodes.map AxNode.nodeId).Nodup ∧
            collectSubtree (nodeMap nodes) [] [dialog.nodeId] = some subtree ∧
            recognize dialog subtree = .KNOWN_FRESH_NOTICE dialogId closeButtonId := by
  unfold observeBlockingNotice
  split
  · rename_i hnone
    exact absurd hnone hdialog
  · rename_i dialog hone
    have hunique : ∀ other, nodes.filter AxNode.isDialog = [other] → other = dialog := by
      intro other hother
      rw [hone] at hother
      cases hother
      rfl
    simp only [← size_nodeMap]
    -- The checks are made in the order of the source: the role, the ids, the subtree.
    split
    · rename_i hrole
      refine ⟨(fun h => nomatch h), fun _ _ => iff_of_false (fun h => nomatch h) ?_⟩
      rintro ⟨other, _, hother, hrole', -⟩
      cases hunique other hother
      rw [hrole'] at hrole
      cases hrole
    rename_i hrole
    have hrole' : dialog.hasRole "dialog" = true := by simpa using hrole
    split
    · rename_i hsize
      refine ⟨(fun h => nomatch h), fun _ _ => iff_of_false (fun h => nomatch h) ?_⟩
      rintro ⟨_, _, -, -, hsize', -⟩
      rw [hsize', bne_self_eq_false] at hsize
      cases hsize
    rename_i hsize
    have hsize' : (nodeMap nodes).size = nodes.length := by simpa using hsize
    split
    · rename_i hnone
      refine ⟨(fun h => nomatch h), fun _ _ => iff_of_false (fun h => nomatch h) ?_⟩
      rintro ⟨other, _, hother, -, -, hsome, -⟩
      cases hunique other hother
      rw [hnone] at hsome
      cases hsome
    · rename_i subtree hsubtree
      refine ⟨recognize_ne_absent,
        fun _ _ => ⟨fun h => ⟨dialog, subtree, hone, hrole', hsize', hsubtree, h⟩, ?_⟩⟩
      rintro ⟨other, subtree', hother, -, -, hsubtree', h⟩
      cases hunique other hother
      rw [hsubtree] at hsubtree'
      cases hsubtree'
      exact h
  · -- More than one dialog is unknown.
    rename_i hmany
    refine ⟨(fun h => nomatch h), fun _ _ => iff_of_false (fun h => nomatch h) ?_⟩
    rintro ⟨dialog, _, hone, -⟩
    exact hmany dialog hone

end Recognition

/-- On every list of nodes: which lists have no notice, which show the known notice, with which ids,
and that all others have an unknown one. -/
theorem observeBlockingNotice_exact (nodes : List AxNode) :
    (observeBlockingNotice nodes = .ABSENT ↔ ∀ node ∈ nodes, node.isDialog = false) ∧
      (∀ dialogId closeButtonId,
        observeBlockingNotice nodes = .KNOWN_FRESH_NOTICE dialogId closeButtonId ↔
          ∃ dialog closeButton, IsKnownFreshNotice nodes dialog closeButton ∧
            HasBackendId dialog dialogId ∧ HasBackendId closeButton closeButtonId) ∧
      (observeBlockingNotice nodes = .UNKNOWN ↔
        (∃ node ∈ nodes, node.isDialog = true) ∧
          ¬ ∃ dialog closeButton dialogId closeButtonId, IsKnownFreshNotice nodes dialog closeButton ∧
            HasBackendId dialog dialogId ∧ HasBackendId closeButton closeButtonId) := by
  have hempty : nodes.filter AxNode.isDialog = [] ↔ ∀ node ∈ nodes, node.isDialog = false := by
    simp
  have habsent : observeBlockingNotice nodes = .ABSENT ↔ ∀ node ∈ nodes, node.isDialog = false := by
    rw [← hempty]
    refine ⟨fun h => ?_, fun h => ?_⟩
    · by_contra hdialog
      exact (observe_of_dialog hdialog).1 h
    · rw [observeBlockingNotice, h]
  -- The notice is known by its one dialog, whose subtree is a tree that was collected whole.
  have hknown : ∀ dialogId closeButtonId,
      observeBlockingNotice nodes = .KNOWN_FRESH_NOTICE dialogId closeButtonId ↔
        ∃ dialog closeButton, IsKnownFreshNotice nodes dialog closeButton ∧
          HasBackendId dialog dialogId ∧ HasBackendId closeButton closeButtonId := by
    intro dialogId closeButtonId
    constructor
    · intro h
      have hdialog : nodes.filter AxNode.isDialog ≠ [] := fun hnone => by
        rw [habsent.mpr (hempty.mp hnone)] at h
        cases h
      obtain ⟨dialog, subtree, hone, hrole, hdistinct, hsubtree, hrecognized⟩ :=
        ((observe_of_dialog hdialog).2 _ _).mp h
      obtain ⟨closeButton, hheading, hbuttons, hclose, henabled, hid, hcloseId⟩ :=
        (recognize_known_iff hdistinct hsubtree).mp hrecognized
      refine ⟨dialog, closeButton, ⟨(filter_eq_singleton (hdistinct.of_map _)).mp hone, hrole,
        hdistinct, ?_, hheading, hbuttons, hclose, henabled⟩, hid, hcloseId⟩
      rw [← (collectSubtree_spec hdistinct dialog.nodeId).1, hsubtree, Option.isSome_some]
    · rintro ⟨dialog, closeButton, h, hid, hcloseId⟩
      have hone := (filter_eq_singleton (h.distinct.of_map _)).mpr h.dialogs
      have htree := (collectSubtree_spec h.distinct dialog.nodeId).1.mpr h.tree
      obtain ⟨subtree, hsubtree⟩ := Option.isSome_iff_exists.mp htree
      refine ((observe_of_dialog (by simp [hone])).2 _ _).mpr
        ⟨dialog, subtree, hone, h.role, h.distinct, hsubtree, ?_⟩
      exact (recognize_known_iff h.distinct hsubtree).mpr
        ⟨closeButton, h.heading, h.buttons, h.close, h.enabled, hid, hcloseId⟩
  refine ⟨habsent, hknown, ?_⟩
  have hsome : (∃ node ∈ nodes, node.isDialog = true) ↔ ¬ ∀ node ∈ nodes, node.isDialog = false := by
    simp
  have hany : (∃ dialog closeButton dialogId closeButtonId,
      IsKnownFreshNotice nodes dialog closeButton ∧ HasBackendId dialog dialogId ∧
        HasBackendId closeButton closeButtonId) ↔ ∃ dialogId closeButtonId,
      observeBlockingNotice nodes = .KNOWN_FRESH_NOTICE dialogId closeButtonId := by
    simp only [hknown]
    constructor
    · rintro ⟨dialog, closeButton, dialogId, closeButtonId, h⟩
      exact ⟨dialogId, closeButtonId, dialog, closeButton, h⟩
    · rintro ⟨dialogId, closeButtonId, dialog, closeButton, h⟩
      exact ⟨dialog, closeButton, dialogId, closeButtonId, h⟩
  -- What is neither absent nor known is unknown.
  rw [hsome, ← habsent, hany]
  cases observeBlockingNotice nodes with
  | ABSENT => simp
  | UNKNOWN => simp
  | KNOWN_FRESH_NOTICE dialogId closeButtonId => simp

end KnownFreshNotice

end Threadwire

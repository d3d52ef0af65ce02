import GoFlow.Proofs.Descent
import Mathlib.Data.List.Basic

/-!
# Rewritings that a walk does not see

A walk reacts to the outline of a tree and to nothing else. A rewriting of the tree that keeps the
head of every node, and rewrites the parts that the walk picks from a node in place, leaves the
outline as it was, and so leaves all that is built from it.

- `Outline.Keeps`: what a rewriting has to keep of a node.
- `Outline.ofNode_of_keeps`: a rewriting that keeps every node leaves their outlines.
- `build_of_keeps`: it leaves the build unchanged, too.
-/

namespace GoFlow

namespace Outline

/-- The rewriting keeps the head of the node, and rewrites the parts that the walk picks from it in
place. The named children may be rearranged, as long as their outline stays. -/
structure Keeps (f : Node → Node) (n : Node) : Prop where
  head_eq : (f n).head = n.head
  statements : (f n).statements = n.statements.map f
  clauseBody : n.label.isClause → (f n).clauseBody = n.clauseBody.map f
  child? : n.label.isConstruct → ∀ field, (f n).child? field = (n.child? field).map f
  headerParts : n.label.isConstruct → (f n).headerParts = n.headerParts.map f
  clauses : n.label.isConstruct → (f n).clauses = n.clauses.map f
  named : (∀ m ∈ Node.nodesIn n.children, ofNode (f m) = ofNode m) →
    ofNodes (f n).named = ofNodes n.named

section

variable {f : Node → Node} {P : Node → Prop} {n : Node}

/-- A row that is rewritten node by node. -/
theorem ofNodes_map {ns : List Node} (h : ∀ n ∈ ns, ofNode (f n) = ofNode n) :
    ofNodes (ns.map f) = ofNodes ns := by
  rw [ofNodes, List.flatMap_map]
  exact List.flatMap_congr h

theorem Keeps.label_eq (h : Keeps f n) : (f n).label = n.label := congrArg Head.label h.head_eq

theorem Keeps.startLine_eq (h : Keeps f n) : (f n).startLine = n.startLine :=
  congrArg (fun head => head.span.startLine) h.head_eq

theorem Keeps.endLine_eq (h : Keeps f n) : (f n).endLine = n.endLine :=
  congrArg (fun head => head.span.endLine) h.head_eq

/-- The returns among the statements of a body stay on their lines. -/
theorem returnLines_of_keeps (h : Keeps f n) (hstatements : ∀ s ∈ n.statements, Keeps f s) :
    returnLines (f n) = returnLines n := by
  rw [returnLines, h.statements, List.filter_map, List.map_map, returnLines]
  have hfilter : n.statements.filter ((·.label == .returnStatement) ∘ f)
      = n.statements.filter (·.label == .returnStatement) :=
    List.filter_congr fun s hs => by rw [Function.comp_apply, (hstatements s hs).label_eq]
  rw [hfilter]
  exact List.map_congr_left fun s hs => (hstatements s (List.mem_filter.1 hs).1).startLine_eq

/-- The block of a clause stays where it is. -/
theorem clauseEntry_of_keeps (h : Keeps f n) (hclause : n.label.isClause)
    (hbody : ∀ s ∈ n.clauseBody, Keeps f s) (form : Choice) :
    clauseEntry form (f n) = clauseEntry form n := by
  have hfind : (n.clauseBody.map f).findSome? (fun s => (lentKind? s).map (s.startLine, ·))
      = n.clauseBody.findSome? fun s => (lentKind? s).map (s.startLine, ·) := by
    rw [List.findSome?_map, ← List.head?_filterMap, ← List.head?_filterMap]
    refine congrArg List.head? (List.filterMap_congr fun s hs => ?_)
    rw [Function.comp_apply, lentKind?, (hbody s hs).label_eq, (hbody s hs).startLine_eq]
    rfl
  have hlast : ((n.clauseBody.map f).getLast?.getD (f n)).endLine
      = (n.clauseBody.getLast?.getD n).endLine := by
    rw [List.getLast?_map]
    cases hs : n.clauseBody.getLast? with
    | none => exact h.endLine_eq
    | some s => exact (hbody s (List.mem_of_getLast? hs)).endLine_eq
  rw [clauseEntry, clauseEntry, h.clauseBody hclause, hfind, hlast]

/-- A clause that is rewritten. -/
theorem ofClause_of_keeps (h : Keeps f n) (hclause : n.label.isClause)
    (hbody : ∀ s ∈ n.clauseBody, Keeps f s)
    (houtline : ∀ s ∈ n.clauseBody, ofNode (f s) = ofNode s) (form : Choice) :
    ofClause form (f n) = ofClause form n := by
  rw [ofClause, clauseEntry_of_keeps h hclause hbody, h.clauseBody hclause, ofNodes_map houtline,
    ofClause]

/-- The false path of an if stays where it is. -/
theorem falsePath_of_keeps (h : Keeps f n) (hconstruct : n.label.isConstruct)
    (hchildren : ∀ c ∈ n.children, Keeps f c) : falsePath (f n) = falsePath n := by
  unfold falsePath
  rw [h.child? hconstruct, h.child? hconstruct]
  cases ha : n.child? .alternative with
  | some a =>
    have hkeeps := hchildren a (Node.child?_mem ha)
    simp only [Option.map_some, hkeeps.startLine_eq, hkeeps.endLine_eq]
  | none =>
    cases hc : n.child? .consequence with
    | some c =>
      have hkeeps := hchildren c (Node.child?_mem hc)
      simp only [Option.map_none, Option.map_some, Option.getD_some, hkeeps.endLine_eq]
    | none => simp only [Option.map_none, Option.getD_none, h.endLine_eq]

/-- A declaration keeps its name. -/
theorem nameText_of_keeps (h : Keeps f n) (hconstruct : n.label.isConstruct)
    (hchildren : ∀ c ∈ n.children, Keeps f c) : nameText (f n) = nameText n := by
  rw [nameText, nameText, h.child? hconstruct]
  cases hc : n.child? .name with
  | none => rfl
  | some c =>
    rw [Option.map_some, Option.bind_some, Option.bind_some,
      (hchildren c (Node.child?_mem hc)).head_eq]

theorem sizeOf_lt_of_below {m n : Node} (h : m ∈ Node.nodesIn n.children) :
    sizeOf m < sizeOf n := by
  have hdown : Hereditary fun m => sizeOf m < sizeOf n :=
    fun m hm c hc => Nat.lt_trans (Node.sizeOf_lt_of_mem hc) hm
  exact hdown.nodesIn (fun c hc => Node.sizeOf_lt_of_mem hc) h

/-- **A rewriting that keeps every node leaves the outline of each.** -/
theorem ofNode_of_keeps (hP : Hereditary P) (hf : ∀ n, P n → Keeps f n) (hn : P n) :
    ofNode (f n) = ofNode n := by
  induction hsize : sizeOf n using Nat.strongRecOn generalizing n with
  | ind _ ih =>
    subst hsize
    have hkeeps := hf n hn
    have hlabel := hkeeps.label_eq
    have hdown := Node.hereditary_nodesIn n.children
    have hin : ∀ c ∈ n.children, c ∈ Node.nodesIn n.children :=
      fun c hc => Node.mem_nodesIn_of_mem hc
    have hbelow : ∀ m ∈ Node.nodesIn n.children, Keeps f m :=
      fun m hm => hf m (hP.nodesIn (hP n hn) hm)
    have houtline : ∀ m ∈ Node.nodesIn n.children, ofNode (f m) = ofNode m :=
      fun m hm => ih _ (sizeOf_lt_of_below hm) (hP.nodesIn (hP n hn) hm) rfl
    have hchildren : ∀ c ∈ n.children, Keeps f c := fun c hc => hbelow c (hin c hc)
    have hnamed := hkeeps.named houtline
    -- the parts of a child are below the node, so that their outlines are known
    have hstatements : ∀ c ∈ n.children, ofNodes (f c).statements = ofNodes c.statements := by
      intro c hc
      rw [(hchildren c hc).statements,
        ofNodes_map fun s hs => houtline s (hdown.statements (hin c hc) s hs)]
    have hinside : ∀ c ∈ n.children, ofNodes (f c).named = ofNodes c.named := by
      intro c hc
      refine (hchildren c hc).named fun m hm => houtline m ?_
      exact Node.mem_nodesIn.2 ⟨c, hc, Node.mem_nodes_of_below hm⟩
    have hunder : n.label.isConstruct → ∀ field,
        ofNodes ((f n).statementsUnder field) = ofNodes (n.statementsUnder field) ∧
        ofNodes ((f n).namedUnder field) = ofNodes (n.namedUnder field) ∧
        ofNodes ((f n).child? field).toList = ofNodes (n.child? field).toList := by
      intro hconstruct field
      unfold Node.statementsUnder Node.namedUnder
      rw [hkeeps.child? hconstruct]
      cases hc : n.child? field with
      | none => exact ⟨rfl, rfl, rfl⟩
      | some c =>
        have hmem := Node.child?_mem hc
        refine ⟨hstatements c hmem, hinside c hmem, ?_⟩
        exact @ofNodes_map f [c] (by simpa using houtline c (hin c hmem))
    have hheader : n.label.isConstruct → ofNodes (f n).headerParts = ofNodes n.headerParts := by
      intro hconstruct
      rw [hkeeps.headerParts hconstruct]
      exact ofNodes_map fun s hs => houtline s (hin s (List.mem_filter.1 hs).1)
    rcases n.label.construct_cases with
      label | label | label | label | label | label | ⟨form, label⟩
    · rw [ofNode_other label, ofNode_other (hlabel ▸ label), hnamed]
    · have hconstruct := Label.isConstruct_of_isFunction label
      have hname := nameText_of_keeps hkeeps hconstruct hchildren
      have hbody' := hkeeps.child? hconstruct .body
      cases hbody : n.child? .body with
      | none =>
        rw [hbody] at hbody'
        rw [ofNode_prototype label hbody, ofNode_prototype (hlabel ▸ label) hbody', hname,
          hkeeps.startLine_eq]
      | some body =>
        have hmem := Node.child?_mem hbody
        have hreturns := returnLines_of_keeps (hchildren body hmem)
          fun s hs => hbelow s (hdown.statements (hin body hmem) s hs)
        rw [hbody] at hbody'
        rw [ofNode_function label hbody, ofNode_function (hlabel ▸ label) hbody', hname,
          hkeeps.startLine_eq, hkeeps.endLine_eq, hreturns, hstatements body hmem]
    · rw [ofNode_ret label, ofNode_ret (hlabel.trans label), hkeeps.startLine_eq, hnamed]
    · rw [ofNode_spawn label, ofNode_spawn (hlabel.trans label), hkeeps.startLine_eq, hnamed]
    · have hconstruct : n.label.isConstruct := by rw [label]; rfl
      have hunder := hunder hconstruct
      rw [ofNode_cond label, ofNode_cond (hlabel.trans label), hkeeps.startLine_eq,
        falsePath_of_keeps hkeeps hconstruct hchildren, (hunder .consequence).1, ofNodes_append,
        (hunder .initializer).2.1, (hunder .condition).2.1, (hunder .alternative).2.2,
        ← ofNodes_append]
    · have hconstruct : n.label.isConstruct := by rw [label]; rfl
      rw [ofNode_loop label, ofNode_loop (hlabel.trans label), hkeeps.startLine_eq,
        hkeeps.endLine_eq, hheader hconstruct, (hunder hconstruct .body).1]
    · have hconstruct := Label.isConstruct_of_choice label
      have hclauses : (f n).clauses.map (ofClause form) = n.clauses.map (ofClause form) := by
        rw [hkeeps.clauses hconstruct, List.map_map]
        refine List.map_congr_left fun k hk => ?_
        obtain ⟨hk, hclause⟩ := List.mem_filter.1 hk
        have hbody : ∀ s ∈ k.clauseBody, s ∈ Node.nodesIn n.children :=
          fun s hs => hdown.listed (hin k hk) (Node.mem_clauseBody hs)
        exact ofClause_of_keeps (hchildren k hk) (Bool.and_eq_true_iff.1 hclause).2
          (fun s hs => hbelow s (hbody s hs)) (fun s hs => houtline s (hbody s hs)) form
      rw [ofNode_choice label, ofNode_choice (hlabel ▸ label), hkeeps.startLine_eq,
        hheader hconstruct, hclauses]

end

end Outline

/-- **A rewriting that keeps every node leaves the build unchanged.** -/
theorem build_of_keeps {ε : Type} {decode : List UInt8 → Except ε String} {f : Node → Node}
    {P : Node → Prop} (hP : Hereditary P) (hf : ∀ n, P n → Outline.Keeps f n) {root : Node}
    (hroot : P root) (start : Graph) : build decode (f root) start = build decode root start := by
  have hinside : Outline.inside (f root).children = Outline.inside root.children := by
    rw [Outline.inside_eq, Outline.inside_eq]
    exact (hf root hroot).named fun m hm =>
      Outline.ofNode_of_keeps hP hf (hP.nodesIn (hP root hroot) hm)
  rw [build, build, hinside]

end GoFlow

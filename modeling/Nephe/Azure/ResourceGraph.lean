import Nephe.Azure.ShortNames

/-!
# Tables of the resource graph

The rows of virtual machines and of interfaces come from queries to the resource graph
(`azure_resourcegraph.go`), which may split a result into pages.  A response has the
rows of one page, the number of rows of all pages and a token for the next page.  One
request is sent, without a token, so that the tables have the rows of the first page.
-/

namespace Nephe.Azure

open Library

/-! ## The resource graph -/

/-- `resourcegraph.QueryRequest`, with the token of its options. -/
structure QueryRequest where
  subscriptions : List String
  query : String
  skipToken : Option Nat

/-- `resourcegraph.QueryResponse`; the data may be absent. -/
structure QueryResponse (ρ : Type) where
  data : Option (List ρ)
  totalRecords : Nat
  skipToken : Option Nat

/-- A result in pages. -/
abbrev Pages (ρ : Type) := List (Option (List ρ))

/-- The rows of all pages. -/
def Pages.rows {ρ : Type} (pages : Pages ρ) : List ρ :=
  pages.flatMap (·.getD [])

/-- The resource graph fails or has a result for a query and some subscriptions. -/
abbrev ResourceGraph (ρ : Type) := String → List String → Except String (Pages ρ)

/-- What is sent back for a request: the page that its token stands for, or the first one. -/
def ResourceGraph.resources {ρ : Type} (graph : ResourceGraph ρ) (request : QueryRequest) :
    Except String (QueryResponse ρ) :=
  (graph request.query request.subscriptions).map fun pages =>
    let page := request.skipToken.getD 0
    { data := pages[page]?.join
      totalRecords := pages.rows.length
      skipToken := if page + 1 < pages.length then some (page + 1) else none }

/-! ## Tables -/

section Tables

variable {ρ α : Type} (decode : ρ → Except String α)
  (resources : QueryRequest → Except String (QueryResponse ρ)) (query : String)
  (subscriptions : List String)

/-- `invokeResourceGraphQuery`. -/
def invokeResourceGraphQuery : Except String (Option (List ρ) × Nat) :=
  match resources { subscriptions, query, skipToken := none } with
  | .ok results => .ok (results.data, results.totalRecords)
  | .error queryErr => .error queryErr

/-- The rows of the data, decoded one by one, and the number of rows of all pages. -/
def getTable : Except String (List α × Nat) := do
  let (data, count) ← invokeResourceGraphQuery resources query subscriptions
  match data with
  | none => return ([], 0)
  | some rows => return (← rows.mapM decode, count)

end Tables

/-- `getVirtualMachineTable`, for some way to decode a row. -/
def getVirtualMachineTable {ρ : Type} (decode : ρ → Except String VirtualMachineTable) :
    (QueryRequest → Except String (QueryResponse ρ)) → String → List String →
      Except String (List VirtualMachineTable × Nat) :=
  getTable decode

/-- `getNetworkInterfaceTable`, for some way to decode a row. -/
def getNetworkInterfaceTable {ρ : Type} (decode : ρ → Except String NetworkInterfaceTable) :
    (QueryRequest → Except String (QueryResponse ρ)) → String → List String →
      Except String (List NetworkInterfaceTable × Nat) :=
  getTable decode

/-! ## What is in a table -/

section Complete

variable {ρ α : Type} {decode : ρ → Except String α}

theorem forall₂_of_mapM_eq_ok {rows : List ρ} {table : List α}
    (decoded : rows.mapM decode = .ok table) :
    List.Forall₂ (fun row entry => decode row = .ok entry) rows table := by
  induction rows generalizing table with
  | nil =>
    cases decoded
    exact .nil
  | cons row rows induction =>
    rw [List.mapM_cons] at decoded
    cases first : decode row with
    | error err =>
      rw [first] at decoded
      cases decoded
    | ok entry =>
      rw [first] at decoded
      cases rest : rows.mapM decode with
      | error err =>
        rw [rest] at decoded
        cases decoded
      | ok others =>
        rw [rest] at decoded
        cases decoded
        exact .cons first (induction rest)

variable (decode) in
/-- A table with a count is right when it has the rows of all pages and counts them. -/
def ReturnsAll (result : Except String (Pages ρ)) (returned : Except String (List α × Nat)) :
    Prop :=
  ∀ table count, returned = .ok (table, count) → ∃ pages, result = .ok pages ∧
    List.Forall₂ (fun row entry => decode row = .ok entry) pages.rows table ∧
    count = pages.rows.length

variable (decode) in
/-- When the rows of the first page can be decoded, there are no more rows. -/
def FitsOnePage (result : Except String (Pages ρ)) : Prop :=
  ∀ first rest table, result = .ok (first :: rest) →
    (first.getD []).mapM decode = .ok table → Pages.rows rest = []

theorem rows_cons (first : Option (List ρ)) (rest : Pages ρ) :
    Pages.rows (first :: rest) = first.getD [] ++ Pages.rows rest :=
  List.flatMap_cons

/-- What is read of a result is its first page. -/
theorem getTable_eq_ok_iff {graph : ResourceGraph ρ} {query : String}
    {subscriptions : List String} {first : Option (List ρ)} {rest : Pages ρ}
    (result : graph query subscriptions = .ok (first :: rest)) (table : List α) (count : Nat) :
    getTable decode graph.resources query subscriptions = .ok (table, count) ↔
      (first.getD []).mapM decode = .ok table ∧
        count = if first = none then 0 else (Pages.rows (first :: rest)).length := by
  have sent : invokeResourceGraphQuery graph.resources query subscriptions =
      .ok (first, (Pages.rows (first :: rest)).length) := by
    simp [invokeResourceGraphQuery, ResourceGraph.resources, result, Except.map]
  rw [getTable, sent]
  cases first with
  | none => simp [bind, Except.bind, pure, Except.pure, eq_comm]
  | some rows =>
    simp only [bind, Except.bind, Option.getD_some, reduceCtorEq, if_false]
    cases rows.mapM decode with
    | error err => simp
    | ok entries => simp [pure, Except.pure, eq_comm]

theorem returnsAll_getTable_iff (graph : ResourceGraph ρ) (query : String)
    (subscriptions : List String) :
    ReturnsAll decode (graph query subscriptions)
        (getTable decode graph.resources query subscriptions) ↔
      FitsOnePage decode (graph query subscriptions) := by
  constructor
  · intro all first rest table result decoded
    obtain ⟨pages, same, matched, -⟩ := all table _
      ((getTable_eq_ok_iff result table _).mpr ⟨decoded, rfl⟩)
    rw [result] at same
    cases same
    have whole := matched.length_eq
    have part := (forall₂_of_mapM_eq_ok decoded).length_eq
    rw [rows_cons, List.length_append] at whole
    exact List.eq_nil_of_length_eq_zero (by omega)
  · intro fits table count returned
    cases result : graph query subscriptions with
    | error err =>
      simp [getTable, invokeResourceGraphQuery, ResourceGraph.resources, result, Except.map,
        bind, Except.bind] at returned
    | ok pages =>
      refine ⟨pages, rfl, ?_⟩
      cases pages with
      | nil =>
        simp only [getTable, invokeResourceGraphQuery, ResourceGraph.resources, result] at returned
        cases returned
        exact ⟨.nil, rfl⟩
      | cons first rest =>
        obtain ⟨decoded, rfl⟩ := (getTable_eq_ok_iff result table count).mp returned
        have empty := fits first rest table result decoded
        rw [rows_cons, empty, List.append_nil]
        refine ⟨forall₂_of_mapM_eq_ok decoded, ?_⟩
        cases first <;> simp

end Complete

/--
The tables have the rows of all pages exactly when all rows are on the first page, or
that page cannot be decoded.
-/
theorem tables_are_complete_iff {ρ : Type} (graph : ResourceGraph ρ) (query : String)
    (subscriptions : List String) (decodeMachine : ρ → Except String VirtualMachineTable)
    (decodeInterface : ρ → Except String NetworkInterfaceTable) :
    (ReturnsAll decodeMachine (graph query subscriptions)
        (getVirtualMachineTable decodeMachine graph.resources query subscriptions) ↔
      FitsOnePage decodeMachine (graph query subscriptions)) ∧
    (ReturnsAll decodeInterface (graph query subscriptions)
        (getNetworkInterfaceTable decodeInterface graph.resources query subscriptions) ↔
      FitsOnePage decodeInterface (graph query subscriptions)) :=
  ⟨returnsAll_getTable_iff graph query subscriptions,
    returnsAll_getTable_iff graph query subscriptions⟩

/-- Of two pages with a machine each, one machine is returned and two are counted. -/
theorem second_page_is_lost :
    (getVirtualMachineTable (fun name => .ok (machineOf "a" name))
        (ResourceGraph.resources fun _ _ => .ok [some ["web"], some ["db"]]) "Resources" []).map
      (fun returned => (returned.1.map (·.name), returned.2)) = .ok (["web"], 2) ∧
    (getNetworkInterfaceTable (fun group => .ok (nicOf group))
        (ResourceGraph.resources fun _ _ => .ok [some ["a"], some ["b"]]) "Resources" []).map
      (fun returned => (returned.1.length, returned.2)) = .ok (1, 2) :=
  ⟨rfl, rfl⟩

end Nephe.Azure

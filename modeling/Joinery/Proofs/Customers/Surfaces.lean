import Joinery.Customers.AgentTools
import Joinery.Customers.Entities
import Joinery.Customers.Rest
import Joinery.Proofs.Query.Building
import Joinery.Proofs.Service.Answering
import Joinery.Proofs.Service.Selecting

/-! What is asked about customers is answered by one document, whichever way it is asked. -/

namespace Joinery

/-- Arguments that an operation takes: objects where they have to be given, or else null or left out. -/
structure CustomerOperation.Accepts (operation : CustomerOperation) (arguments : Entries Value) :
    Prop where
  /-- Nothing is given that the operation does not take. -/
  known : ∀ key ∈ arguments.keys, key ∈ operation.parameters.map FilterSlot.name
  /-- What has to be given is an object. -/
  required : ∀ slot ∈ operation.required, ∃ fields, arguments.get? slot.name = some (.map fields)
  /-- Everything that is given is an object or null. -/
  documents : ∀ slot : FilterSlot, ∀ document, arguments.get? slot.name = some document →
    document.isDocument = true

variable {operation : CustomerOperation} {arguments : Entries Value} {service : Service}
  {filters : CustomerFilters}

/-- Kinds of records have different names. -/
theorem FilterSlot.name_injective : Function.Injective FilterSlot.name := by
  intro slot other same
  cases slot <;> cases other <;> first | rfl | exact absurd same (by decide)

/-- Filters are the same when they are for every kind of record. -/
theorem CustomerFilters.ext_get {filters others : CustomerFilters}
    (same : ∀ slot, filters.get slot = others.get slot) : filters = others := by
  -- Filters have four parts, and each is that of one kind.
  obtain ⟨profile, subscription, product, interaction⟩ := filters
  obtain ⟨profile', subscription', product', interaction'⟩ := others
  rw [CustomerFilters.mk.injEq]
  exact ⟨same .profile, same .subscription, same .product, same .interaction⟩

/-- The filter of a kind is the value of its name. -/
theorem CustomerFilters.get_ofEntries (entries : Entries Value) (slot : FilterSlot) :
    (ofEntries entries).get slot = (entries.get? slot.name).getD .null := by
  cases slot <;> rfl

/-- What is listed under the names of some kinds is found there. -/
theorem FilterSlot.get?_listed (values : FilterSlot → Value) {slots : List FilterSlot}
    {slot : FilterSlot} (listed : slot ∈ slots) :
    Entries.get? (slots.map fun slot => (slot.name, values slot)) slot.name = some (values slot) := by
  -- No two kinds have one name, so the first entry under the name is that of the kind.
  induction slots with
  | nil => contradiction
  | cons first rest ih =>
    rw [List.map_cons, Entries.get?, List.lookup_cons]
    split
    · rename_i same
      rw [name_injective (eq_of_beq same)]
    · rename_i apart
      refine ih ((List.mem_cons.mp listed).resolve_left ?_)
      rintro rfl
      simp at apart

/-- Filters that are given in the order in which they are taken come to themselves. -/
theorem CustomerFilters.inOrder_get {slots : List FilterSlot}
    (others : ∀ slot, slot ∉ slots → filters.get slot = .null) :
    inOrder slots (slots.map filters.get) = filters := by
  -- What is found under the name of a kind is its own filter, and nothing where the kind is not taken.
  refine ext_get fun slot => ?_
  rw [inOrder, get_ofEntries, List.zip_map']
  by_cases taken : slot ∈ slots
  · rw [FilterSlot.get?_listed filters.get taken, Option.getD_some]
  · -- Nothing is under the name of a kind that is not taken.
    rw [others slot taken, Entries.get?_eq_none, Option.getD_none]
    rw [Entries.keys, List.map_map]
    rintro inside
    obtain ⟨other, member, same⟩ := List.mem_map.mp inside
    exact taken (FilterSlot.name_injective same ▸ member)

/-- A filter that an operation does not take is not among accepted arguments. -/
theorem CustomerOperation.Accepts.get_eq_null (accepted : operation.Accepts arguments)
    {slot : FilterSlot} (foreign : slot ∉ operation.parameters) :
    (CustomerFilters.ofEntries arguments).get slot = .null := by
  -- Arguments are known by the names that the operation takes, and the name of this kind is none of them.
  rw [CustomerFilters.get_ofEntries, Entries.get?_eq_none, Option.getD_none]
  intro inside
  obtain ⟨other, member, same⟩ := List.mem_map.mp (accepted.known _ inside)
  exact foreign (FilterSlot.name_injective same ▸ member)

/-- Every filter among accepted arguments is a document. -/
theorem CustomerOperation.Accepts.isDocument (accepted : operation.Accepts arguments)
    (slot : FilterSlot) : ((CustomerFilters.ofEntries arguments).get slot).isDocument = true := by
  -- A filter that is left out is null, which counts as a document.
  rw [CustomerFilters.get_ofEntries]
  cases found : arguments.get? slot.name with
  | none => rfl
  | some document => exact accepted.documents slot document found

/-- Accepted arguments are read by name. -/
theorem CustomerOperation.Accepts.read (accepted : operation.Accepts arguments) :
    readFilters operation.parameters operation.required arguments = .ok (.ofEntries arguments) := by
  -- Reading asks for known names and for the required filters, and accepted arguments have both.
  rw [readFilters, if_pos]
  rw [Bool.and_eq_true, List.all_eq_true, List.all_eq_true]
  refine ⟨fun key member => List.contains_iff_mem.mpr (accepted.known key member), ?_⟩
  intro slot member
  obtain ⟨fields, found⟩ := accepted.required slot member
  exact List.any_eq_true.mpr ⟨_, Entries.mem_of_get? found, beq_self_eq_true _⟩

/-- An operation is carried out alike with filters by name and with filters in their order. -/
theorem CustomerOperation.Accepts.carryOut (accepted : operation.Accepts arguments) :
    operation.carryOut service
        (operation.parameters.map (CustomerFilters.ofEntries arguments).get) =
      operation.run service (.ofEntries arguments) := by
  -- The kinds that the operation does not take are left out either way.
  rw [CustomerOperation.carryOut, CustomerFilters.inOrder_get]
  exact fun slot => accepted.get_eq_null

/-- A call by name carries out the operation. -/
theorem CustomerOperation.Accepts.call (accepted : operation.Accepts arguments) :
    operation.call service arguments = operation.run service (.ofEntries arguments) := by
  -- Accepted arguments are read, and what is left is the operation.
  rw [CustomerOperation.call, accepted.read]
  rfl

/-- An operation is found by its name. -/
theorem CustomerOperation.ofName?_name (operation : CustomerOperation) :
    ofName? operation.name = some operation := by
  cases operation <;> decide

/-- An operation is found at its path. -/
theorem CustomerOperation.ofPath?_path (operation : CustomerOperation) :
    ofPath? operation.path = some operation := by
  cases operation <;> decide +kernel

/-- A tool carries out its operation, and answers with the document of the result. -/
theorem CustomerOperation.Accepts.callTool (accepted : operation.Accepts arguments) :
    callTool service operation.name arguments =
      (operation.run service (.ofEntries arguments)).map (·.toDocument) := by
  -- A tool takes its filters in the order of the operation, so it reads the same ones.
  have order : operation.toolParameters = operation.parameters := by cases operation <;> rfl
  rw [Joinery.callTool, ofName?_name]
  simp only [order, accepted.read]
  rw [← accepted.carryOut]
  rfl

/-- A filter that is given is read from the body, whether it has to be there or not. -/
theorem Reader.field_of_get? {body : Entries Value} {slot : FilterSlot}
    {fields : List (String × Value)} (found : body.get? slot.name = some (.map fields))
    (default? : Option (List (String × Value))) :
    (field body slot.name mapping default?).map .map =
      .valid ((CustomerFilters.ofEntries body).get slot) := by
  -- What is found under the name is a mapping, which the reader takes as it is.
  simp only [field, found, CustomerFilters.get_ofEntries]
  rfl

/-- A filter that may be left out is read from the body as it is given. -/
theorem CustomerOperation.Accepts.optionalFilter (accepted : operation.Accepts arguments)
    (slot : FilterSlot) :
    Reader.optionalFilter arguments slot =
      .valid ((CustomerFilters.ofEntries arguments).get slot) := by
  -- A missing filter is read as null, and one that is there is null or a mapping.
  simp only [Reader.optionalFilter, Reader.field, CustomerFilters.get_ofEntries]
  cases found : arguments.get? slot.name with
  | none => rfl
  | some document =>
    have given := accepted.documents slot document found
    cases document with
    | null | map => rfl
    | _ => contradiction

/-- The fields of a body are read in the order in which the operation takes them. -/
theorem CustomerOperation.Accepts.readFields (accepted : operation.Accepts arguments) :
    operation.readFields arguments =
      .valid (operation.parameters.map (CustomerFilters.ofEntries arguments).get) := by
  have given (slot : FilterSlot) (needed : slot ∈ operation.required)
      (default? : Option (List (String × Value))) :
      (Reader.field arguments slot.name Reader.mapping default?).map .map =
        .valid ((CustomerFilters.ofEntries arguments).get slot) := by
    obtain ⟨fields, found⟩ := accepted.required slot needed
    exact Reader.field_of_get? found default?
  have profile : Reader.profileFilter arguments =
      .valid ((CustomerFilters.ofEntries arguments).get .profile) :=
    given .profile (by cases operation <;> decide) (some [])
  have optional := accepted.optionalFilter
  cases operation with
  | subscriptionsByProduct =>
    -- Only here a second filter has to be there.
    have product : Reader.requiredFilter arguments .product =
        .valid ((CustomerFilters.ofEntries arguments).get .product) :=
      given .product (by decide) none
    simp only [CustomerOperation.readFields, profile, product, optional]
    rfl
  | _ =>
    simp only [CustomerOperation.readFields, profile, optional]
    rfl

/-- A request with accepted arguments is answered by the response that tells the result. -/
theorem CustomerOperation.Accepts.respond (accepted : operation.Accepts arguments) :
    service.respond ⟨"POST", operation.path, some (.map arguments)⟩ =
      (operation.run service (.ofEntries arguments)).map (·.response) := by
  -- The method and the path select the operation, and its body is read filter by filter.
  have method : "POST".map Char.toUpper = "POST" := by decide +kernel
  simp only [Service.respond, ofPath?_path, method, if_true, CustomerOperation.respond,
    CustomerOperation.readBody, accepted.readFields, Checked.under, accepted.carryOut]

/-- Filters that are documents make a proper query of every view. -/
theorem CustomerView.exists_query (view : CustomerView)
    (documents : ∀ slot, (filters.get slot).isDocument = true) :
    ∃ query, view.query filters = .ok query ∧ query.Proper := by
  -- Each step of a view takes a filter that is a document, and names and caps that are written out.
  refine Query.empty_proper.exists_applyAll ?_
  have profile : filters.profile.isDocument = true := documents .profile
  have subscription : filters.subscription.isDocument = true := documents .subscription
  have product : filters.product.isDocument = true := documents .product
  have interaction : filters.interaction.isDocument = true := documents .interaction
  cases view <;>
    simp [joins, joinSubscriptions, joinProducts, joinInteractions, QueryStep.isProper,
      profile, subscription, product, interaction, Value.isName, Value.isDeclaredCap]

/-- The query of a view compares with what the filters hold. -/
theorem CustomerView.query_compares (view : CustomerView) {query : Query} {value : Value}
    (built : view.query filters = .ok query) (compares : query.Compares value) :
    ∃ slot, (filters.get slot).Holds value := by
  rcases Query.compares_of_applyAll built compares with
    ⟨filter, none, _⟩ | ⟨step, member, document, given, holds⟩
  · -- A comparison comes from a document of some step, and the empty query has none.
    simp [Query.filters, Query.empty] at none
  · -- Every document is the filter of its kind, or null, which holds nothing.
    have nothing : ¬ Value.null.Holds value := by
      rintro ⟨_, _, same, _⟩
      cases same
    have known : document = .null ∨ ∃ slot, document = filters.get slot := by
      cases view <;>
        simp only [joins, joinSubscriptions, joinProducts, joinInteractions, List.mem_cons,
          List.not_mem_nil, or_false] at member <;>
        rcases member with rfl | rfl | rfl | rfl | rfl <;> cases given <;>
        first
        | exact .inl rfl
        | exact .inr ⟨.profile, rfl⟩
        | exact .inr ⟨.subscription, rfl⟩
        | exact .inr ⟨.product, rfl⟩
        | exact .inr ⟨.interaction, rfl⟩
    rcases known with rfl | ⟨slot, rfl⟩
    · exact absurd holds nothing
    · exact ⟨slot, holds⟩

/-- The service of customers over a database. -/
def Database.customerService (database : Database) (levels : Nat) : Service :=
  ⟨customerRegistry, database, levels⟩

/-- A value under a key of one of the filters that cannot be shown. -/
def CustomerFilters.Unshown (levels : Nat) (filters : CustomerFilters) (misuse : Misuse) : Prop :=
  ∃ slot value, (filters.get slot).Holds value ∧ value.Unshown levels misuse

/-- Every operation with filters that are documents has a result, unless a filter holds what cannot be shown. -/
theorem CustomerOperation.run_cases (operation : CustomerOperation) (database : Database) (levels : Nat)
    (documents : ∀ slot, (filters.get slot).isDocument = true) :
    (∃ result, operation.run (database.customerService levels) filters = .ok result) ∨
      ∃ misuse, operation.run (database.customerService levels) filters = .error (.misuse misuse) ∧
        filters.Unshown levels misuse := by
  -- The view makes a proper query, and the largest cap of the domain can be written.
  obtain ⟨query, built, proper⟩ := operation.view.exists_query documents
  have defaultPos : 0 < customerRegistry.defaultLimit := by decide
  have maxPos : 0 < customerRegistry.maxLimit := by decide
  have written : isWritable customerRegistry.maxLimit = true := by decide +kernel
  rw [run, built]
  rcases (database.customerService levels).execute_cases defaultPos maxPos proper .quiet with
    ⟨result, executed⟩ | ⟨misuse, escaped, ⟨long, _⟩ | ⟨value, compares, unshown⟩⟩
  · exact .inl ⟨result, mapError_eq_ok.mpr executed⟩
  · cases written.symm.trans long
  · obtain ⟨slot, holds⟩ := operation.view.query_compares built compares
    exact .inr ⟨misuse, by simp only [escaped]; rfl, slot, value, holds, unshown⟩

/-- An operation has one result at most, in however many levels a complaint shows values. -/
theorem CustomerOperation.run_unique {database : Database} {levels others : Nat}
    {result other : QueryResult}
    (carried : operation.run (database.customerService levels) filters = .ok result)
    (again : operation.run (database.customerService others) filters = .ok other) :
    other = result := by
  rw [run] at carried again
  -- Both carry out the query that the view makes of the filters.
  cases built : operation.view.query filters with
  | error cause =>
    rw [built] at carried
    contradiction
  | ok query =>
    rw [built] at carried again
    exact Service.execute_unique (mapError_eq_ok.mp carried) (mapError_eq_ok.mp again)

/-- What products or subscriptions by product take, subscriptions take as well. -/
theorem CustomerOperation.Accepts.subscriptions (accepted : operation.Accepts arguments)
    (narrower : operation = .subscriptionsByProduct ∨ operation = .products) :
    CustomerOperation.subscriptions.Accepts arguments where
  -- Every kind that the narrower operation takes is one of those that subscriptions take.
  known key member := by
    have taken := accepted.known key member
    rcases narrower with rfl | rfl <;>
      simp only [parameters, List.map_cons, List.mem_cons] at taken ⊢ <;> tauto
  required slot needed := by
    refine accepted.required slot ?_
    cases List.mem_singleton.mp needed
    cases operation <;> decide
  documents := accepted.documents

/-- Subscriptions for the products that match a filter are subscriptions with the same filters. -/
theorem CustomerOperation.Accepts.call_subscriptionsByProduct
    (accepted : subscriptionsByProduct.Accepts arguments) :
    subscriptionsByProduct.call service arguments =
      CustomerOperation.subscriptions.call service arguments := by
  -- Both operations carry out the same view.
  rw [accepted.call, (accepted.subscriptions (.inl rfl)).call]
  rfl

/-- Products are asked for like subscriptions without a filter, of which only the products are kept. -/
theorem CustomerView.query_products (unfiltered : filters.subscription = .null) :
    products.query filters = (subscriptions.query filters).map (·.select ["Product"]) := by
  -- The steps of products are those of subscriptions with a selection at the end.
  have steps : products.joins filters = subscriptions.joins filters ++ [.select ["Product"]] := by
    rw [joins, joins, unfiltered]
    rfl
  rw [query, steps, query, ← List.cons_append, ← List.cons_append, Query.applyAll_append]
  generalize Query.empty.applyAll _ = built
  cases built <;> rfl

/-- Products are answered like subscriptions without a filter, as far as the products go. -/
theorem CustomerOperation.run_products (service : Service)
    (unfiltered : filters.subscription = .null) :
    SameOutcome (QueryResult.SameAbout "product") (subscriptions.run service filters)
      (products.run service filters) := by
  -- The selection narrows what the query answers, and products are kept.
  simp only [run, view]
  rw [CustomerView.query_products unfiltered]
  cases built : CustomerView.subscriptions.query filters with
  | error cause => exact .fault _
  | ok query =>
    have every : query.selectedEntities = [] := by
      refine Query.selectedEntities_of_applyAll ?_ built
      simp [CustomerView.joins, joinSubscriptions, joinProducts]
    have kept : "product" ∈ ["Product"].map lowered := by decide +kernel
    exact (Service.execute_select every kept).mapError

/-- A filter that is given as null is none. -/
theorem CustomerFilters.ofEntries_append_null (entries : Entries Value) (slot : FilterSlot) :
    ofEntries (entries ++ [(slot.name, .null)]) = ofEntries entries := by
  -- Behind the other entries null is found only where nothing was found before.
  refine ext_get fun other => ?_
  rw [get_ofEntries, get_ofEntries, Entries.get?, Entries.get?, List.lookup_append]
  cases entries.lookup other.name with
  | some value => rfl
  | none =>
    rw [List.lookup_cons]
    split <;> rfl

/-- An operation takes null for a filter that it takes. -/
theorem CustomerOperation.Accepts.append_null (accepted : operation.Accepts arguments)
    {slot : FilterSlot} (taken : slot ∈ operation.parameters) :
    operation.Accepts (arguments ++ [(slot.name, .null)]) where
  known key member := by
    -- The name that is added is one that the operation takes.
    rw [Entries.keys, List.map_append] at member
    rcases List.mem_append.mp member with before | last
    · exact accepted.known key before
    · cases List.mem_singleton.mp last
      exact List.mem_map_of_mem taken
  required other needed := by
    obtain ⟨fields, found⟩ := accepted.required other needed
    -- What was found before is found still, and the one new document is null.
    rw [Entries.get?] at found
    exact ⟨fields, by rw [Entries.get?, List.lookup_append, found]; rfl⟩
  documents other document found := by
    rw [Entries.get?, List.lookup_append] at found
    rcases Option.or_eq_some_iff.mp found with before | ⟨_, last⟩
    · exact accepted.documents other document before
    · rw [(Prod.mk.inj (List.mem_singleton.mp (Entries.mem_of_get? last))).2]
      rfl

/-- A body may leave out the filter on customers: an empty one takes its place. -/
theorem Service.respond_without_profile (service : Service) (operation : CustomerOperation)
    {body : Entries Value} (absent : body.get? "profile" = none) :
    service.respond ⟨"POST", operation.path, some (.map (("profile", .map []) :: body))⟩ =
      service.respond ⟨"POST", operation.path, some (.map body)⟩ := by
  -- The empty filter is what a missing one is read as, and it stands in nobody else's way.
  have profile : Reader.profileFilter (("profile", .map []) :: body) = Reader.profileFilter body := by
    simp only [Reader.profileFilter, Reader.field, absent]
    rfl
  have other {slot : FilterSlot} (apart : slot ≠ .profile) :
      Entries.get? (("profile", .map []) :: body) slot.name = body.get? slot.name := by
    have different : (slot.name == "profile") = false :=
      beq_eq_false_iff_ne.mpr fun same => apart (FilterSlot.name_injective same)
    rw [Entries.get?, Entries.get?, List.lookup_cons, different]
  have fields : operation.readFields (("profile", .map []) :: body) = operation.readFields body := by
    have optional {slot : FilterSlot} (apart : slot ≠ .profile) :
        Reader.optionalFilter (("profile", .map []) :: body) slot =
          Reader.optionalFilter body slot := by
      simp only [Reader.optionalFilter, Reader.field, other apart]
    have product : Reader.requiredFilter (("profile", .map []) :: body) .product =
        Reader.requiredFilter body .product := by
      simp only [Reader.requiredFilter, Reader.field, other (show FilterSlot.product ≠ .profile by decide)]
    cases operation <;> simp [CustomerOperation.readFields, profile, optional, product]
  simp only [respond, CustomerOperation.ofPath?_path, CustomerOperation.respond,
    CustomerOperation.readBody, fields]

/-- A request that is answered like an operation is answered so without the filter on customers as well. -/
theorem CustomerOperation.Accepts.respond_body (accepted : operation.Accepts arguments)
    {body : Entries Value} (given : body = arguments ∨
      (arguments = ("profile", .map []) :: body ∧ body.get? "profile" = none)) :
    service.respond ⟨"POST", operation.path, some (.map body)⟩ =
      (operation.run service (.ofEntries arguments)).map (·.response) := by
  -- The body has all arguments, or it lacks only the filter that an empty one stands for.
  rcases given with rfl | ⟨rfl, absent⟩
  · exact accepted.respond
  · exact (Service.respond_without_profile _ operation absent).symm.trans accepted.respond

/-- Subscriptions without a filter are asked for with null as well. -/
theorem CustomerOperation.Accepts.call_unfiltered (accepted : products.Accepts arguments)
    {unfiltered : Entries Value}
    (given : unfiltered = arguments ∨ unfiltered = arguments ++ [("subscription", .null)]) :
    CustomerOperation.subscriptions.call service unfiltered =
      CustomerOperation.subscriptions.run service (.ofEntries arguments) := by
  have plain := accepted.subscriptions (.inr rfl)
  rcases given with rfl | rfl
  · exact plain.call
  · -- A null that is added changes no filter.
    have accepted' := plain.append_null (show FilterSlot.subscription ∈ _ by decide)
    exact accepted'.call.trans (congrArg _ (CustomerFilters.ofEntries_append_null arguments .subscription))

/--
What is asked about customers has one result, whichever way it is asked: called by name, as a tool,
or by a request, which is answered with 200 for a success and with 400 otherwise.

Only a filter that holds a value which cannot be shown can leave it without a result, and then none of the ways
comes to one. In how many levels a value can be shown may differ from way to way, but a result that they come to
does not. Subscriptions by product are subscriptions with the same filters, and products are those of the
subscriptions that no filter narrows.
-/
theorem CustomerOperation.surfaces_agree (database : Database) (levels : Nat)
    (accepted : operation.Accepts arguments) :
    let service := database.customerService levels
    let bodies (body : Entries Value) := body = arguments ∨
      (arguments = ("profile", .map []) :: body ∧ body.get? "profile" = none)
    let unshown (misuse : Misuse) := (CustomerFilters.ofEntries arguments).Unshown levels misuse
    ((∃ result, operation.call service arguments = .ok result ∧
        callTool service operation.name arguments = .ok result.toDocument ∧
        ∀ body, bodies body → service.respond ⟨"POST", operation.path, some (.map body)⟩ =
          .ok (.answer (if result.success then 200 else 400) result.toDocument)) ∨
      ∃ misuse, unshown misuse ∧ operation.call service arguments = .error (.misuse misuse) ∧
        callTool service operation.name arguments = .error (.misuse misuse) ∧
        ∀ body, bodies body →
          service.respond ⟨"POST", operation.path, some (.map body)⟩ = .error (.misuse misuse)) ∧
    (∀ others result other, operation.call service arguments = .ok result →
      operation.call (database.customerService others) arguments = .ok other → other = result) ∧
    (operation = .subscriptionsByProduct → operation.call service arguments =
      CustomerOperation.subscriptions.call service arguments) ∧
    (operation = .products →
      ∀ unfiltered, unfiltered = arguments ∨ unfiltered = arguments ++ [("subscription", .null)] →
        (∃ result other, operation.call service arguments = .ok other ∧
          CustomerOperation.subscriptions.call service unfiltered = .ok result ∧
          result.SameAbout "product" other) ∨
        ∃ misuse, unshown misuse ∧ operation.call service arguments = .error (.misuse misuse) ∧
          CustomerOperation.subscriptions.call service unfiltered = .error (.misuse misuse)) := by
  refine ⟨?_, fun others result other called again => ?_, ?_, ?_⟩
  · -- Every way carries out the operation, and tells what comes of it.
    rcases operation.run_cases database levels accepted.isDocument with
      ⟨result, carried⟩ | ⟨misuse, carried, unshown⟩
    · refine .inl ⟨result, accepted.call.trans carried, ?_, fun body given => ?_⟩
      · rw [accepted.callTool, carried]
        rfl
      · rw [accepted.respond_body given, carried]
        rfl
    · refine .inr ⟨misuse, unshown, accepted.call.trans carried, ?_, fun body given => ?_⟩
      · rw [accepted.callTool, carried]
        rfl
      · rw [accepted.respond_body given, carried]
        rfl
  · exact run_unique (accepted.call.symm.trans called) (accepted.call.symm.trans again)
  · rintro rfl
    exact accepted.call_subscriptionsByProduct
  · -- Products are what subscriptions without a filter tell about the product.
    rintro rfl unfiltered given
    rw [accepted.call_unfiltered given, accepted.call]
    have same := run_products (database.customerService levels)
      (accepted.get_eq_null (show FilterSlot.subscription ∉ _ by decide))
    -- What is left of a result or of an exception is the same for both.
    rcases CustomerOperation.subscriptions.run_cases database levels accepted.isDocument with
      ⟨result, carried⟩ | ⟨misuse, carried, unshown⟩
    · obtain ⟨other, products, about⟩ := same.exists_ok carried
      exact .inl ⟨result, other, products, carried, about⟩
    · rw [carried] at same
      exact .inr ⟨misuse, unshown, same.eq_error, carried⟩

/-- One customer with one product on one subscription. -/
def oneProduct : Database :=
  ⟨[⟨"CustomerProfile", ⟨[⟨"customer_id", .text⟩, ⟨"name", .text⟩, ⟨"email", .text⟩,
        ⟨"phone", .text⟩, ⟨"created_at", .text⟩],
      [[.text "C001", .text "Ada", .text "ada@example.com", .null,
        .text "2025-06-01 12:00:00.000000"]], by decide⟩⟩,
    ⟨"Subscription", ⟨[⟨"id", .numeric⟩, ⟨"customer_id", .text⟩, ⟨"plan_name", .text⟩,
        ⟨"status", .text⟩, ⟨"start_date", .text⟩, ⟨"end_date", .text⟩],
      [[.integer 1, .text "C001", .text "Starter", .text "active",
        .text "2025-06-02 12:00:00.000000", .null]], by decide⟩⟩,
    ⟨"Product", ⟨[⟨"id", .numeric⟩, ⟨"subscription_id", .numeric⟩, ⟨"product_name", .text⟩,
        ⟨"sku", .text⟩, ⟨"quantity", .numeric⟩, ⟨"price", .numeric⟩],
      [[.integer 7, .integer 1, .text "Cloud", .text "CS", .integer 5, .integer 23]], by decide⟩⟩], by decide⟩

/-- The customer and the product are asked for. -/
def productArguments : Entries Value :=
  [("profile", .map [("customer_id", .text "C001")]), ("product", .map [("sku", .text "CS")])]

/-- The product is the only one. -/
def productResult : QueryResult where
  success := true
  error := none
  data := [("product", .list [.map [("id", .int 7), ("subscription_id", .int 1),
    ("product_name", .text "Cloud"), ("sku", .text "CS"), ("quantity", .int 5), ("price", .int 23)]])]
  counts := [("product", 1)]
  warnings := []

/-- The product comes as a tool's answer, in a response, and among the subscriptions. -/
theorem oneProduct_agrees :
    CustomerOperation.products.Accepts productArguments ∧
      callTool (oneProduct.customerService 900) "get_customer_products" productArguments =
        .ok productResult.toDocument ∧
      (oneProduct.customerService 900).respond
          ⟨"POST", "/api/customer/products", some (.map productArguments)⟩ =
        .ok (.answer 200 productResult.toDocument) ∧
      ∃ result, CustomerOperation.subscriptions.call (oneProduct.customerService 900) productArguments =
          .ok result ∧ result.SameAbout "product" productResult := by
  -- There is one filter on products, and it is a mapping.
  have accepted : CustomerOperation.products.Accepts productArguments := by
    refine ⟨by decide, ?_, fun slot => ?_⟩
    · intro slot needed
      cases List.mem_singleton.mp needed
      exact ⟨_, rfl⟩
    · cases slot <;> rintro _ ⟨⟩ <;> rfl
  have carried : CustomerOperation.products.call (oneProduct.customerService 900) productArguments =
      .ok productResult := eq_ok_of_toOption (by decide +kernel)
  -- The call succeeds, so the other ends of the theorem are out of the question.
  obtain ⟨surfaces, -, -, products⟩ := CustomerOperation.surfaces_agree oneProduct 900 accepted
  rcases surfaces with ⟨result, called, tool, response⟩ | ⟨misuse, -, escaped, -⟩
  · rcases products rfl _ (.inl rfl) with ⟨whole, other, again, plain, same⟩ | ⟨misuse, -, escaped, -⟩
    · cases carried.symm.trans called
      cases carried.symm.trans again
      exact ⟨accepted, tool, response _ (.inl rfl), whole, plain, same⟩
    · cases carried.symm.trans escaped
  · cases carried.symm.trans escaped

/-- Products of which so many are asked for that the number cannot be written. -/
def longArguments : Entries Value :=
  [("profile", .map [("customer_id", .text "C001")]),
    ("product", .map [("quantity", .int (powTen longestInteger))])]

/-- They are asked for with filters that are taken, and neither the call nor the tool comes to a document. -/
theorem longArguments_unanswered :
    CustomerOperation.products.Accepts longArguments ∧
      (¬ ∃ result, CustomerOperation.products.call (oneProduct.customerService 900) longArguments =
        .ok result) ∧
      ¬ ∃ document, callTool (oneProduct.customerService 900) "get_customer_products" longArguments =
        .ok document := by
  have accepted : CustomerOperation.products.Accepts longArguments := by
    refine ⟨by decide, ?_, fun slot => ?_⟩
    · intro slot needed
      cases List.mem_singleton.mp needed
      exact ⟨_, rfl⟩
    · cases slot <;> rintro _ ⟨⟩ <;> rfl
  -- The call and the tool are carried out, and neither shows a result.
  have refused : (CustomerOperation.products.call (oneProduct.customerService 900)
      longArguments).toOption.isNone = true := by decide +kernel
  have tool : (callTool (oneProduct.customerService 900) "get_customer_products"
      longArguments).toOption.isNone = true := by decide +kernel
  refine ⟨accepted, ?_, ?_⟩
  · rintro ⟨result, called⟩
    rw [called] at refused
    contradiction
  · rintro ⟨document, called⟩
    rw [called] at tool
    contradiction

end Joinery

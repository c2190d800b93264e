import SdkModel.Action.Basic

/-!
# Input views

The inputs of an action rarely are the arguments of an SDK method as they stand. A view selects the
inputs that an argument list is made of and may split those with nested fields into one entry per
field. `InputOptions` tells which inputs a view keeps and how it splits; every view is ordered by
sort order, and inputs of one sort order keep the order body first, then query.
-/

namespace SdkModel

/-- What the views of the inputs keep and split. -/
structure InputOptions where
  /-- Composite arrays are split into one entry per nested field. -/
  flatMulti : Bool := true
  /-- All inputs are ordered by field, objects split per nested field. -/
  flatSingle : Bool := false
  /-- Sub-resource inputs are kept. -/
  subResources : Bool := false
  /-- Pagination inputs are kept. -/
  pagination : Bool := false
  /-- Pagination inputs are kept even when there are just two inputs. -/
  onlyPagination : Bool := false
  /-- The sort input is kept in the query views. -/
  sortBy : Bool := false
  /-- All inputs are ordered by one level of nested sort orders. -/
  flatOuter : Bool := false
deriving DecidableEq, Repr

/-- The inputs of one action under options. -/
structure Inputs where
  action : Action
  options : InputOptions := {}

namespace Inputs

variable (i : Inputs)

/-- The visible body fields as attributes. -/
def visibleBody : List Attribute :=
  (i.action.bodyParameters.map (·.asAttribute)).filter (·.isVisible)

/-- The visible query parameters as attributes. -/
def visibleQuery : List Attribute :=
  (i.action.queryParameters.map (·.asAttribute)).filter (·.isVisible)

/-- Drops pagination inputs, unless they are kept and `enough` says that they may stay. -/
def withoutPagination (enough : Bool) (attributes : List Attribute) : List Attribute :=
  if !i.options.pagination || (!enough && attributes.length = 2) then
    attributes.filter (!·.isPagination)
  else attributes

/-! ## Orders of nested fields -/

/-- The sort orders of all nested fields, each once. -/
def nestedOrders (attributes : List Attribute) : List Int :=
  distinctOrders (attributes.flatMap fun a => a.nested.map (·.sortOrder))

/-- One entry per nested field, by the sort order of the fields. -/
def splitFields (attributes : List Attribute) : List Attribute :=
  (nestedOrders attributes).flatMap fun order =>
    attributes.flatMap fun a => (a.nested.filter (·.sortOrder = order)).map a.withField

/-- The names of the inputs by the sort orders of their nested fields, each name once. -/
def namesByField (attributes : List Attribute) : List String :=
  ((nestedOrders attributes).flatMap fun order =>
    (attributes.filter fun a => a.nested.any (·.sortOrder = order)).map (·.name)).eraseDups

/-- An input that stands for itself among the entries of one level. -/
def isWhole (a : Attribute) : Bool := a.nested.isEmpty || a.isSort || a.isFilter

/-- The sort orders of one level: those of the inputs and those of their fields, but for filters
and the sort input. -/
def levelOrders (attributes : List Attribute) : List Int :=
  distinctOrders ((attributes.filter fun a => !a.isFilter && !a.isSort).flatMap
    (fun a => a.nested.map (·.sortOrder)) ++ attributes.map (·.sortOrder))

/-- The entry of an input at a sort order of the level. A whole input is entered once per name; of
another one the first field of that order stands for it, pagination left out. -/
def levelEntry (order : Int) (entered : List Attribute) (a : Attribute) : List Attribute :=
  if isWhole a && a.sortOrder = order then
    if entered.all (·.name ≠ a.name) then [a] else []
  else if a.isFilter || a.isPagination || a.isSort then []
  else ((a.nested.find? (·.sortOrder = order)).map a.withField).toList

/-- The inputs ordered by one level of nested sort orders. -/
def singleLevel (attributes : List Attribute) : List Attribute :=
  (levelOrders attributes).foldl (fun entered order =>
    attributes.foldl (fun entered a => entered ++ levelEntry order entered a) entered) []

/-- The sort orders that inputs state themselves. -/
def statedOrders (attributes : List Attribute) : List Int :=
  distinctOrders ((attributes.map (·.sortOrder)).filter (-1 < ·))

/-- The inputs that are not split, by the sort orders that inputs state. -/
def plainEntries (attributes : List Attribute) : List Attribute :=
  (statedOrders attributes).flatMap fun order =>
    attributes.filter fun a => isWhole a && a.sortOrder = order

/-- The sort orders that inputs state and those of the fields of inputs that state none. -/
def fieldOrders (attributes : List Attribute) : List Int :=
  distinctOrders (statedOrders attributes ++ (attributes.filter (·.sortOrder = -1)).flatMap
    fun a => a.nested.map (·.sortOrder))

/-- The inputs that are not split, and behind them one entry per nested field. -/
def byField (attributes : List Attribute) : List Attribute :=
  plainEntries attributes ++ (fieldOrders attributes).flatMap fun order =>
    attributes.flatMap fun a => (a.nested.filter (·.sortOrder = order)).map a.withField

/-! ## Views -/

/-- The visible inputs that the options keep, body first. -/
def retained : List Attribute :=
  let attributes := i.visibleBody ++ i.visibleQuery
  let attributes := if i.options.subResources then attributes
    else attributes.filter fun a => !a.isSubResource || a.isFilter
  i.withoutPagination i.options.onlyPagination attributes

/-- Every visible input. -/
def all : List Attribute :=
  if i.options.flatOuter then singleLevel i.retained
  else if i.options.flatSingle then byField i.retained
  else sortByOrder Attribute.sortOrder i.retained

/-- The body inputs that are neither composite arrays nor filters. -/
def body : List Attribute :=
  sortByOrder Attribute.sortOrder (i.visibleBody.filter fun a => !a.isComposite && !a.isFilter)

/-- The query inputs, and the filters that are sent in the body. -/
def query : List Attribute :=
  let sorts := if i.options.sortBy then i.visibleQuery.filter (·.isSort) else []
  sortByOrder Attribute.sortOrder
    (i.withoutPagination false (i.visibleQuery ++ sorts ++ i.visibleBody.filter (·.isFilter)))

/-- A query input that is a plain object with properties and a filter or a sub-resource. -/
def isObjectQuery (a : Attribute) : Bool :=
  a.schema.type = some "object" && a.schema.properties.isSome && a.schema.items.isNone &&
    !a.isComposite && (a.isFilter || a.isSubResource)

/-- A body input that may hold sub-resource fields. -/
def isBodyCandidate (a : Attribute) : Bool :=
  if i.options.subResources then a.isSubResource || a.hasSubResourceField else !a.isFilter

/-- The object inputs that hold a sub-resource field. -/
def singularFields : List Attribute :=
  let candidates := i.query.filter isObjectQuery ++ i.body.filter i.isBodyCandidate
  (sortByOrder Attribute.sortOrder
    (candidates.filter fun a => i.options.sortBy || !a.isSort)).filter (·.hasSubResourceField)

/-- The composite arrays, split per nested field when the options say so. -/
def multiFields : List Attribute :=
  let inputs := i.visibleQuery ++ i.visibleBody
  let sorts := if i.options.sortBy then inputs.filter fun a => a.isSort && !a.nested.isEmpty
    else []
  let attributes := inputs.filter (·.isComposite) ++ sorts
  sortByOrder Attribute.sortOrder
    (if i.options.flatMulti then splitFields attributes else attributes)

/-- The inputs that are sub-resources or hold one, by the sort orders of their fields. -/
def consolidated : List Attribute :=
  let attributes := i.all.filter fun a => a.isSubResource || a.hasSubResourceField
  (namesByField attributes).flatMap fun name => attributes.filter (·.name = name)

end Inputs

end SdkModel

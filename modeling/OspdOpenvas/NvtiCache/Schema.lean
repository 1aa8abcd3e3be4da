import OspdOpenvas.Python.Dict

/-!
# The layout of the NVT cache and the store that holds it

A VT record is a list of fifteen fields at fixed positions (`nvtMetaFields`), stored under the key
`nvt:<oid>`; the preferences of a VT are a list under `oid:<oid>:prefs`. `NVTICache` reads them
through the store client of `ospd_openvas.db`, which is not among the sources modelled here:
`OpenvasDB` gives the calls it makes on that client as functions of their arguments, so what is
proved about the decoders holds whatever the store answers.
-/

namespace OspdOpenvas

/-- `LIST_FIRST_POS`. -/
def listFirstPos : ℤ := 0

/-- `LIST_LAST_POS`. -/
def listLastPos : ℤ := -1

/-- Modelled from the spec (`NVT_META_FIELDS` of `ospd_openvas.db`): the names of the positions
of a VT record, in order. -/
def nvtMetaFields : List String :=
  ["NVT_FILENAME_POS", "NVT_REQUIRED_KEYS_POS", "NVT_MANDATORY_KEYS_POS", "NVT_EXCLUDED_KEYS_POS",
    "NVT_REQUIRED_UDP_PORTS_POS", "NVT_REQUIRED_PORTS_POS", "NVT_DEPENDENCIES_POS",
    "NVT_TAGS_POS", "NVT_CVES_POS", "NVT_BIDS_POS", "NVT_XREFS_POS", "NVT_CATEGORY_POS",
    "NVT_TIMEOUT_POS", "NVT_FAMILY_POS", "NVT_NAME_POS"]

/-- `NVT_META_FIELDS.index(name)`; the code asks only for names the list holds. -/
def nvtMetaPos (name : String) : ℤ := nvtMetaFields.indexOf name

/-- Modelled from the spec: a context of the store, connected to one of its databases. -/
structure RedisCtx where
  index : ℕ
  deriving DecidableEq, Repr

/-- Modelled from the spec (the store client of `ospd_openvas.db`): the calls `NVTICache` makes
on it, each a function of its arguments. A ranged read returns `none` for a value that is not a
list. -/
structure OpenvasDB where
  /-- `db_find(pattern)`: the database tagged with `pattern`. -/
  dbFind : String → Option RedisCtx
  /-- `get_kb_context()`. -/
  getKbContext : Option RedisCtx
  /-- `get_list_item(name, ctx, start, end)`: the elements from `start` to `end`, both included. -/
  getListItem : Option RedisCtx → String → ℤ → ℤ → Option (List String)
  /-- `get_single_item(name, ctx, index)`. -/
  getSingleItem : Option RedisCtx → String → ℤ → Option String

/-- A store that answers every ranged read with `listItem` and every single read with
`singleItem`, as the unit tests' mocked `OpenvasDB` does; it finds no database. -/
def mockOpenvasDB (listItem : Option (List String)) (singleItem : Option String) : OpenvasDB where
  dbFind _ := none
  getKbContext := none
  getListItem _ _ _ _ := listItem
  getSingleItem _ _ _ := singleItem

/-- The key of a VT record, `"nvt:%s" % oid`. -/
def nvtKey (oid : String) : String := "nvt:" ++ oid

/-- The key of the preferences of a VT, `"oid:%s:prefs" % oid`. -/
def prefsKey (oid : String) : String := "oid:" ++ oid ++ ":prefs"

end OspdOpenvas

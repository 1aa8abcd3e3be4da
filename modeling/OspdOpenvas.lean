import OspdOpenvas.Python.Str
import OspdOpenvas.Python.Builtins
import OspdOpenvas.Python.Dict
import OspdOpenvas.Packaging.Version
import OspdOpenvas.Packaging.Order
import OspdOpenvas.Packaging.Case
import OspdOpenvas.NvtiCache.Schema
import OspdOpenvas.NvtiCache.Tags
import OspdOpenvas.NvtiCache.Params
import OspdOpenvas.NvtiCache.Record
import OspdOpenvas.NvtiCache.Locator
import OspdOpenvas.NvtiCache.Lifecycle
import OspdOpenvas.NvtiCache.Caching

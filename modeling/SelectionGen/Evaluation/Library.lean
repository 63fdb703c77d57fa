/-! Modules that come with the language and with what the generated code needs. What is in them is not looked
into; only whether a name is that of a module is known. -/
namespace SelectionGen.Evaluation

/-- The modules of the standard library that are no packages. -/
def plainModules : List String :=
  ["abc", "aifc", "antigravity", "argparse", "array", "ast", "asynchat", "asyncore", "atexit",
  "audioop", "base64", "bdb", "binascii", "bisect", "builtins", "bz2", "cProfile", "calendar",
  "cgi", "cgitb", "chunk", "cmath", "cmd", "code", "codecs", "codeop", "colorsys", "compileall",
  "configparser", "contextlib", "contextvars", "copy", "copyreg", "crypt", "csv", "dataclasses",
  "datetime", "decimal", "difflib", "dis", "doctest", "enum", "errno", "faulthandler", "fcntl",
  "filecmp", "fileinput", "fnmatch", "fractions", "ftplib", "functools", "gc", "genericpath",
  "getopt", "getpass", "gettext", "glob", "graphlib", "grp", "gzip", "hashlib", "heapq", "hmac",
  "imaplib", "imghdr", "imp", "inspect", "io", "ipaddress", "itertools", "keyword", "linecache",
  "locale", "lzma", "mailbox", "mailcap", "marshal", "math", "mimetypes", "mmap", "modulefinder",
  "netrc", "nntplib", "ntpath", "nturl2path", "numbers", "opcode", "operator", "optparse", "os",
  "ossaudiodev", "pathlib", "pdb", "pickle", "pickletools", "pipes", "pkgutil", "platform",
  "plistlib", "poplib", "posix", "posixpath", "pprint", "profile", "pstats", "pty", "pwd",
  "py_compile", "pyclbr", "pydoc", "pyexpat", "queue", "quopri", "random", "readline", "reprlib",
  "resource", "rlcompleter", "runpy", "sched", "secrets", "select", "selectors", "shelve", "shlex",
  "shutil", "signal", "site", "smtpd", "smtplib", "sndhdr", "socket", "socketserver", "spwd",
  "sre_compile", "sre_constants", "sre_parse", "ssl", "stat", "statistics", "string", "stringprep",
  "struct", "subprocess", "sunau", "symtable", "sys", "sysconfig", "syslog", "tabnanny", "tarfile",
  "telnetlib", "tempfile", "termios", "textwrap", "this", "threading", "time", "timeit", "token",
  "tokenize", "trace", "traceback", "tracemalloc", "tty", "turtle", "types", "typing",
  "unicodedata", "uu", "uuid", "warnings", "wave", "weakref", "webbrowser", "xdrlib", "zipapp",
  "zipfile", "zipimport", "zlib", "__future__", "_abc", "_ast", "_bisect", "_codecs",
  "_collections", "_collections_abc", "_csv", "_datetime", "_decimal", "_functools", "_heapq",
  "_io", "_json", "_operator", "_pickle", "_random", "_socket", "_sre", "_ssl", "_stat", "_string",
  "_struct", "_thread", "_threading_local", "_typing", "_warnings", "_weakref", "_weakrefset"]

/-- The packages of the standard library with their modules. -/
def libraryPackages : List (String × List String) :=
  [("asyncio", ["base_events", "base_futures", "base_subprocess", "base_tasks", "constants",
     "coroutines", "events", "exceptions", "format_helpers", "futures", "locks", "log", "mixins",
     "proactor_events", "protocols", "queues", "runners", "selector_events", "sslproto", "staggered",
     "streams", "subprocess", "taskgroups", "tasks", "threads", "timeouts", "transports", "trsock",
     "unix_events", "windows_events", "windows_utils"]),
   ("collections", ["abc"]),
   ("concurrent", ["futures"]),
   ("ctypes", ["_aix", "_endian", "macholib", "util", "wintypes"]),
   ("curses", ["ascii", "has_key", "panel", "textpad"]),
   ("dbm", ["dumb", "gnu", "ndbm"]),
   ("email", ["_encoded_words", "_header_value_parser", "_parseaddr", "_policybase", "base64mime",
     "charset", "contentmanager", "encoders", "errors", "feedparser", "generator", "header",
     "headerregistry", "iterators", "message", "mime", "parser", "policy", "quoprimime", "utils"]),
   ("html", ["entities", "parser"]),
   ("http", ["client", "cookiejar", "cookies", "server"]),
   ("importlib", ["_abc", "_bootstrap", "_bootstrap_external", "abc", "machinery", "metadata",
     "readers", "resources", "simple", "util"]),
   ("json", ["decoder", "encoder", "scanner", "tool"]),
   ("logging", ["config", "handlers"]),
   ("multiprocessing", ["connection", "context", "dummy", "forkserver", "heap", "managers", "pool",
     "popen_fork", "popen_forkserver", "popen_spawn_posix", "popen_spawn_win32", "process", "queues",
     "reduction", "resource_sharer", "resource_tracker", "shared_memory", "sharedctypes", "spawn",
     "synchronize", "util"]),
   ("pydoc_data", ["topics"]),
   ("re", ["_casefix", "_compiler", "_constants", "_parser"]),
   ("sqlite3", ["dbapi2", "dump"]),
   ("tomllib", ["_parser", "_re", "_types"]),
   ("unittest", ["_log", "async_case", "case", "loader", "main", "mock", "result", "runner", "signals",
     "suite", "util"]),
   ("urllib", ["error", "parse", "request", "response", "robotparser"]),
   ("wsgiref", ["handlers", "headers", "simple_server", "types", "util", "validate"]),
   ("xml", ["dom", "etree", "parsers", "sax"]),
   ("xmlrpc", ["client", "server"]),
   ("zoneinfo", ["_common", "_tzpath", "_zoneinfo"])]

/-- Packages whose modules are not told apart. -/
def openPackages : List String :=
  ["distutils", "encodings", "ensurepip", "idlelib", "lib2to3", "test", "tkinter", "turtledemo",
  "venv", "pip", "setuptools", "pkg_resources", "wheel", "annotated_types", "click", "gql_projgen",
  "graphql", "jinja2", "markupsafe", "pydantic", "pydantic_core", "typing_extensions",
  "typing_inspection", "pytest", "_pytest", "pluggy", "iniconfig", "packaging"]

end SelectionGen.Evaluation

/-!
# Modules without extensions

The modules that can be loaded and make no extension. Extensions are named by the modules that make
them, and a name may lead to another module by mistake.
-/

namespace Transcript.Preview

/-- Modules that have no parts. -/
def plainModules : List String := [
  "abc", "aifc", "argparse", "array", "ast", "asynchat", "asyncore", "atexit", "audioop",
  "base64", "bdb", "binascii", "bisect", "builtins", "bz2", "cProfile", "calendar", "cgi",
  "cgitb", "chunk", "cmath", "cmd", "code", "codecs", "codeop", "colorsys", "compileall",
  "configparser", "contextlib", "contextvars", "copy", "copyreg", "crypt", "csv", "dataclasses",
  "datetime", "decimal", "difflib", "dis", "doctest", "enum", "errno", "faulthandler", "fcntl",
  "filecmp", "fileinput", "fnmatch", "fractions", "ftplib", "functools", "gc", "genericpath",
  "getopt", "getpass", "gettext", "glob", "graphlib", "grp", "gzip", "hashlib", "heapq", "hmac",
  "imaplib", "imghdr", "imp", "inspect", "io", "ipaddress", "itertools", "keyword", "linecache",
  "locale", "lzma", "mailbox", "mailcap", "marshal", "math", "mimetypes", "mmap",
  "modulefinder", "netrc", "nntplib", "ntpath", "nturl2path", "numbers", "opcode", "operator",
  "optparse", "os", "os.path", "pathlib", "pdb", "pickle", "pickletools", "pipes", "pkgutil",
  "platform", "plistlib", "poplib", "posix", "posixpath", "pprint", "profile", "pstats", "pty",
  "pwd", "py_compile", "pyclbr", "pydoc", "pyexpat", "queue", "quopri", "random", "readline",
  "reprlib", "resource", "rlcompleter", "runpy", "sched", "secrets", "select", "selectors",
  "shelve", "shlex", "shutil", "signal", "site", "smtpd", "smtplib", "sndhdr", "socket",
  "socketserver", "spwd", "sre_compile", "sre_constants", "sre_parse", "ssl", "stat",
  "statistics", "string", "stringprep", "struct", "subprocess", "sunau", "symtable", "sys",
  "sysconfig", "syslog", "tabnanny", "tarfile", "telnetlib", "tempfile", "termios", "textwrap",
  "threading", "time", "timeit", "token", "tokenize", "trace", "traceback", "tracemalloc",
  "tty", "types", "typing", "typing_extensions", "unicodedata", "uu", "uuid", "warnings",
  "wave", "weakref", "webbrowser", "xdrlib", "zipapp", "zipfile", "zipimport", "zlib"]

/-- Modules that have parts, each with the names of its parts. -/
def packages : List (String × List String) := [
  ("asyncio", ["base_events", "constants", "coroutines", "events", "exceptions", "futures",
    "locks", "log", "protocols", "queues", "runners", "streams", "subprocess", "taskgroups",
    "tasks", "threads", "timeouts", "transports", "unix_events"]),
  ("collections", ["abc"]),
  ("concurrent", ["futures"]),
  ("concurrent.futures", ["process", "thread"]),
  ("ctypes", ["util", "wintypes"]),
  ("curses", ["ascii", "has_key", "panel", "textpad"]),
  ("dbm", ["dumb", "ndbm"]),
  ("distutils", []),
  ("email", ["base64mime", "charset", "contentmanager", "encoders", "errors", "feedparser",
    "generator", "header", "headerregistry", "iterators", "message", "mime", "parser", "policy",
    "quoprimime", "utils"]),
  ("email.mime", ["application", "audio", "base", "image", "message", "multipart",
    "nonmultipart", "text"]),
  ("encodings", ["aliases", "ascii", "charmap", "cp1252", "idna", "latin_1", "punycode",
    "utf_16", "utf_32", "utf_7", "utf_8", "utf_8_sig"]),
  ("ensurepip", []),
  ("html", ["entities", "parser"]),
  ("http", ["client", "cookiejar", "cookies", "server"]),
  ("importlib", ["abc", "machinery", "metadata", "readers", "resources", "simple", "util"]),
  ("importlib.metadata", []),
  ("importlib.resources", ["abc", "readers", "simple"]),
  ("json", ["decoder", "encoder", "scanner", "tool"]),
  ("logging", ["config", "handlers"]),
  ("multiprocessing", ["connection", "context", "dummy", "forkserver", "heap", "managers",
    "pool", "process", "queues", "reduction", "shared_memory", "sharedctypes", "spawn",
    "synchronize", "util"]),
  ("multiprocessing.dummy", ["connection"]),
  ("pydoc_data", ["topics"]),
  ("re", []),
  ("sqlite3", ["dbapi2", "dump"]),
  ("tomllib", []),
  ("unittest", ["async_case", "case", "loader", "main", "mock", "result", "runner", "signals",
    "suite", "util"]),
  ("urllib", ["error", "parse", "request", "response", "robotparser"]),
  ("venv", []),
  ("wsgiref", ["handlers", "headers", "simple_server", "types", "util", "validate"]),
  ("xml", ["dom", "etree", "parsers", "sax"]),
  ("xml.dom", ["domreg", "expatbuilder", "minicompat", "minidom", "pulldom", "xmlbuilder"]),
  ("xml.etree", ["ElementInclude", "ElementPath", "ElementTree"]),
  ("xml.parsers", ["expat"]),
  ("xml.parsers.expat", []),
  ("xml.sax", ["expatreader", "handler", "saxutils", "xmlreader"]),
  ("xmlrpc", ["client", "server"]),
  ("zoneinfo", []),
  ("annotated_types", []),
  ("bs4", ["builder", "dammit", "element"]),
  ("click", ["core", "decorators", "exceptions", "formatting", "globals", "parser",
    "shell_completion", "termui", "testing", "types", "utils"]),
  ("lxml", ["etree", "html"]),
  ("lxml.html", ["builder", "clean", "defs", "diff"]),
  ("markdown", ["blockparser", "blockprocessors", "core", "extensions", "htmlparser",
    "inlinepatterns", "postprocessors", "preprocessors", "serializers", "treeprocessors",
    "util"]),
  ("markdown.extensions", []),
  ("pydantic", ["fields", "main", "types"]),
  ("pygments", ["filter", "formatter", "formatters", "lexer", "lexers", "style", "styles",
    "token", "util"]),
  ("pygments.formatters", []),
  ("pygments.lexers", []),
  ("pygments.styles", []),
  ("pymdownx", ["blocks", "emoji1_db", "gemoji_db", "keymap_db", "slugs", "twemoji_db", "util"]),
  ("pymdownx.blocks", ["block"]),
  ("rich", ["console", "markdown", "markup", "panel", "progress", "prompt", "style", "syntax",
    "table", "text", "theme", "traceback", "tree"]),
  ("soupsieve", ["css_match", "css_parser", "css_types", "util"]),
  ("typer", ["core", "main", "models", "params", "testing", "utils"]),
  ("yaml", ["composer", "constructor", "cyaml", "dumper", "emitter", "error", "events",
    "loader", "nodes", "parser", "reader", "representer", "resolver", "scanner", "serializer",
    "tokens"])]

/-- Modules that are loaded under another name than their own. -/
def loadedNames : List (String × String) := [("os.path", "posixpath")]

end Transcript.Preview

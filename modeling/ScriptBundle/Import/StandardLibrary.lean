import ScriptBundle.Import.LogicalPath

/-!
# Modules of the standard library

The modules that come with the interpreter, of Python 2 and 3, by their paths. A submodule counts
only if it is listed itself.
-/

namespace ScriptBundle

/-- Paths of modules that come with the interpreter. -/
def standardModules : List String := [
  -- text
  "string", "re", "struct", "difflib", "StringIO", "cStringIO", "textwrap", "codecs",
  "unicodedata", "stringprep", "fpformat",
  -- data types
  "datetime", "calendar", "collections", "heapq", "bisect", "array", "sets", "sched", "mutex",
  "Queue", "weakref", "UserDict", "UserList", "UserString", "types", "new", "copy", "pprint",
  "repr",
  -- numeric
  "numbers", "math", "cmath", "decimal", "fractions", "random", "itertools", "functools",
  "operator",
  -- files and directories
  "os/path", "fileinput", "stat", "statvfs", "filecmp", "tempfile", "glob", "fnmatch",
  "linecache", "shutil", "dircache", "macpath",
  -- persistence
  "pickle", "cPickle", "copy_reg", "shelve", "marshal", "anydbm", "whichdb", "dbm", "gdbm",
  "dbhash", "bsddb", "dumbdbm", "sqlite3",
  -- compression
  "zlib", "gzip", "bz2", "zipfile", "tarfile",
  -- file formats
  "csv", "ConfigParser", "robotparser", "netrc", "xdrlib", "plistlib",
  -- crypto
  "hashlib", "hmac", "md5", "sha",
  -- os services
  "os", "io", "time", "argparse", "optparse", "getopt", "logging", "logging/config",
  "logging/handlers", "getpass", "curses", "curses/textpad", "curses/ascii", "curses/panel",
  "platform", "errno", "ctypes",
  -- optional os services
  "select", "threading", "thread", "dummy_threading", "dummy_thread", "multiprocessing", "mmap",
  "readline", "rlcompleter",
  -- ipc and networking
  "subprocess", "socket", "ssl", "signal", "popen2", "asyncore", "asynchat",
  -- internet data
  "email", "json", "mailcap", "mailbox", "mhlib", "mimetools", "mimetypes", "MimeWriter",
  "mimify", "multifile", "rfc822", "base64", "binhex", "binascii", "quopri", "uu",
  -- markup
  "HTMLParser", "sgmllib", "htmllib", "htmlentitydefs", "xml/etree/ElementTree", "xml/dom",
  "xml/dom/minidom", "xml/dom/pulldom", "xml/sax", "xml/sax/handler", "xml/sax/saxutils",
  "xml/sax/xmlreader", "xml/parsers/expat",
  -- internet protocols
  "webbrowser", "cgi", "cgitb", "wsgiref", "urllib", "urllib2", "httplib", "ftplib", "poplib",
  "imaplib", "nntplib", "smtplib", "smtpd", "telnetlib", "uuid", "urlparse", "SocketServer",
  "BaseHTTPServer", "SimpleHTTPServer", "CGIHTTPServer", "cookielib", "Cookie", "xmlrpclib",
  "SimpleXMLRPCServer", "DocXMLRPCServer",
  -- multimedia
  "audioop", "imageop", "aifc", "sunau", "wave", "chunk", "colorsys", "imghdr", "sndhdr",
  "ossaudiodev",
  -- i18n
  "gettext", "locale",
  -- frameworks
  "cmd", "shlex",
  -- tk
  "Tkinter", "ttk", "Tix", "ScrolledText", "turtle",
  -- development
  "pydoc", "doctest", "unittest", "test", "test/test_support",
  -- debugging
  "bdb", "pdb", "hotshot", "timeit", "trace",
  -- runtime
  "sys", "sysconfig", "__builtin__", "future_builtins", "__main__", "warnings", "contextlib",
  "abc", "atexit", "traceback", "__future__", "gc", "inspect", "site", "user", "fpectl",
  "distutils",
  -- interpreters
  "code", "codeop",
  -- restricted execution
  "rexec", "Bastion",
  -- importing
  "imp", "importlib", "imputil", "zipimport", "pkgutil", "modulefinder", "runpy",
  -- language
  "parser", "ast", "symtable", "symbol", "token", "keyword", "tokenize", "tabnanny", "pyclbr",
  "py_compile", "compileall", "dis", "pickletools",
  -- misc
  "formatter",
  -- windows
  "msilib", "msvcrt", "_winreg", "winsound",
  -- unix
  "posix", "pwd", "spwd", "grp", "crypt", "dl", "termios", "tty", "pty", "fcntl", "pipes",
  "posixfile", "resource", "nis", "syslog", "commands",
  -- mac
  "ic", "MacOS", "macostools", "findertools", "EasyDialogs", "FrameWork", "autoGIL",
  "ColorPicker",
  -- mac scripting
  "gensuitemodule", "aetools", "aepack", "aetypes", "MiniAEFrame",
  -- sgi
  "al", "AL", "cd", "fl", "FL", "flp", "fm", "gl", "DEVICE", "GL", "imgfile", "jpeg",
  -- sunos
  "sunaudiodev", "SUNAUDIODEV",
  -- python 3 additions
  "asyncio", "typing", "pathlib", "enum", "dataclasses", "concurrent/futures", "contextvars",
  "collections/abc", "importlib/abc", "importlib/util", "importlib/resources", "urllib/parse",
  "urllib/request", "urllib/error", "http", "http/client", "http/server", "queue", "secrets",
  "statistics", "selectors", "zoneinfo", "graphlib", "lzma", "configparser", "html",
  "html/parser", "xml/etree", "builtins", "faulthandler", "tracemalloc", "unittest/mock", "venv",
  "zipapp", "ipaddress", "socketserver", "reprlib", "copyreg", "_thread", "winreg",
  -- python 3 submodules
  "email/mime", "email/mime/text", "email/mime/multipart", "email/mime/base",
  "email/mime/application", "email/mime/image", "email/mime/audio", "email/mime/message",
  "email/message", "email/parser", "email/policy", "email/header", "email/headerregistry",
  "email/utils", "email/encoders", "email/generator", "email/charset", "email/errors",
  "importlib/metadata", "importlib/machinery", "json/decoder", "json/encoder", "json/tool",
  "xml/etree/cElementTree", "xml/etree/ElementPath", "xml/dom/minicompat", "multiprocessing/pool",
  "multiprocessing/managers", "multiprocessing/queues", "multiprocessing/shared_memory",
  "multiprocessing/connection", "multiprocessing/dummy", "concurrent/futures/thread",
  "concurrent/futures/process", "asyncio/subprocess", "asyncio/events", "asyncio/tasks",
  "asyncio/queues", "http/cookies", "http/cookiejar", "urllib/response", "urllib/robotparser",
  "wsgiref/simple_server", "wsgiref/util", "wsgiref/headers", "wsgiref/validate", "ctypes/util",
  "ctypes/wintypes", "sqlite3/dbapi2", "dbm/dumb", "dbm/gnu", "dbm/ndbm", "encodings/utf_8",
  "encodings/idna", "encodings/aliases", "unittest/case", "unittest/util"]

/-- Whether a path names a module of the standard library. A relative path always names a local
module. -/
def isStandardModule (path : String) : Bool :=
  !LogicalPath.isRelative path && standardModules.contains path

end ScriptBundle

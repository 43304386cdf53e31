/-!
# The fixed parts of a bundle

The opening installs an importer for the modules that the lines behind it register; the script runs
in the `try` block that it ends in, and the closing ends that block.
-/

namespace ScriptBundle.Template

/-- Lines with their ends. -/
def text (lines : List String) : String := String.join (lines.map (· ++ "\n"))

def openingLines : List String := [
  "",
  "import base64 as _plait_base64",
  "import importlib.util as _plait_importlib_util",
  "import sys as _plait_sys",
  "import zlib as _plait_zlib",
  "",
  "",
  "class _PlaitImporter(object):",
  "    \"\"\"Serves the embedded modules to the import system.\"\"\"",
  "",
  "    def __init__(self):",
  "        self._modules = \x7b\x7d",
  "",
  "    def register(self, path, payload):",
  "        parts = path.split(\"/\")",
  "        is_package = parts[-1] == \"__init__\"",
  "        if is_package:",
  "            parts = parts[:-1]",
  "        for depth in range(1, len(parts)):",
  "            self._modules.setdefault(\".\".join(parts[:depth]), (None, None, True))",
  "        self._modules[\".\".join(parts)] = (path, payload, is_package)",
  "",
  "    def find_spec(self, fullname, path=None, target=None):",
  "        entry = self._modules.get(fullname)",
  "        if entry is None:",
  "            return None",
  "        return _plait_importlib_util.spec_from_loader(",
  "            fullname, self, origin=self._filename(entry[0]), is_package=entry[2]",
  "        )",
  "",
  "    def create_module(self, spec):",
  "        return None",
  "",
  "    def exec_module(self, module):",
  "        name = module.__spec__.name",
  "        path = self._modules[name][0]",
  "        module.__file__ = self._filename(path)",
  "        source = self.get_source(name)",
  "        if source:",
  "            exec(compile(source, module.__file__, \"exec\"), module.__dict__)",
  "",
  "    def get_source(self, fullname):",
  "        entry = self._modules.get(fullname)",
  "        if entry is None or entry[1] is None:",
  "            return \"\"",
  "        return _plait_zlib.decompress(_plait_base64.b64decode(entry[1])).decode(\"utf-8\")",
  "",
  "    @staticmethod",
  "    def _filename(path):",
  "        if path is None:",
  "            return None",
  "        return \"<plait>/\" + path + \".py\"",
  "",
  "",
  "_plait_importer = _PlaitImporter()",
  "",
  "",
  "def _plait_register_module(path, payload):",
  "    _plait_importer.register(path, payload)",
  "",
  "",
  "try:",
  "    _plait_sys.meta_path.insert(0, _plait_importer)"]

def opening : String := text openingLines

def closingLines : List String := [
  "finally:",
  "    del _plait_register_module"]

def closing : String := text closingLines

/-- One level of indentation, that of the `try` block. -/
def indentation : String := "    "

def registerFunction : String := "_plait_register_module"

/-- The first line of a bundle, unless told otherwise. -/
def defaultShebang : String := "#!/usr/bin/env python3"

end ScriptBundle.Template

/-!
# The bridge script

The program that runs inside the child process: it loads the package, and either says whether the
package can lint texts or lints the one text it is sent.
-/

namespace LintServer.Bridge

/-- The lines of the script. -/
def scriptLines : List String :=
  [
    "'use strict'",
    "",
    "const lib = require(process.env.STANDARD_LS_MODULE)",
    "",
    "function write (payload) \x7b",
    "  process.stdout.write(JSON.stringify(payload))",
    "\x7d",
    "",
    "function failure (error, kind) \x7b",
    "  const message = error && typeof error.message === 'string' ? error.message : null",
    "  return \x7b [kind]: \x7b message \x7d \x7d",
    "\x7d",
    "",
    "if (process.env.STANDARD_LS_MODE === 'probe') \x7b",
    "  write(\x7b lintText: typeof lib.lintText === 'function' \x7d)",
    "\x7d else \x7b",
    "  let input = ''",
    "  process.stdin.setEncoding('utf8')",
    "  process.stdin.on('data', (chunk) => \x7b input += chunk \x7d)",
    "  process.stdin.on('end', () => \x7b",
    "    const request = JSON.parse(input)",
    "    let done = false",
    "    const reply = (error, report) => \x7b",
    "      if (done) return",
    "      done = true",
    "      write(error ? failure(error, 'error') : \x7b report: report === undefined ? null : report \x7d)",
    "    \x7d",
    "    try \x7b",
    "      const pending = lib.lintText(request.text, request.options, reply)",
    "      if (pending && typeof pending.then === 'function') \x7b",
    "        pending.then((report) => reply(null, report), (error) => reply(error || \x7b\x7d))",
    "      \x7d",
    "    \x7d catch (error) \x7b",
    "      // lintText threw before accepting the text",
    "      if (done) return",
    "      done = true",
    "      write(failure(error || \x7b\x7d, 'raised'))",
    "    \x7d",
    "  \x7d)",
    "\x7d"
  ]

/-- The script, each line with its line break. -/
def script : String := String.join (scriptLines.map (· ++ "\n"))

end LintServer.Bridge

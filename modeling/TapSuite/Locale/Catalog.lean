import TapSuite.Locale.Message

/-!
# The message catalog

Every message of the program under its key, in English and in Chinese.
-/

namespace TapSuite

/-- A message in all languages. -/
structure CatalogEntry where
  key : String
  english : Message
  chinese : Message
  deriving DecidableEq

def catalog : List CatalogEntry := [
  ⟨"_version",
    ["1"],
    ["1"]⟩,
  ⟨"cli.about",
    ["Discovers test suite files in a directory, runs them through an interpreter and reports the results."],
    ["在目录中发现测试套件文件，通过解释器运行它们并报告结果。"]⟩,
  ⟨"cli.lang",
    ["Language for output messages (e.g. en, zh-CN)."],
    ["输出消息的语言（例如 en, zh-CN）。"]⟩,
  ⟨"cli.cmd_run_about",
    ["Run every suite in the suites directory once (default command)."],
    ["运行套件目录中的每个套件一次（默认命令）。"]⟩,
  ⟨"cli.cmd_init_about",
    ["Create a SuiteRunner.toml configuration file."],
    ["创建 SuiteRunner.toml 配置文件。"]⟩,
  ⟨"cli.arg_config",
    ["Path to the configuration file."],
    ["配置文件路径。"]⟩,
  ⟨"cli.arg_suites_dir",
    ["Directory scanned for suite files."],
    ["扫描套件文件的目录。"]⟩,
  ⟨"cli.arg_suffix",
    ["File-name suffix of suite files."],
    ["套件文件的文件名后缀。"]⟩,
  ⟨"cli.arg_command",
    ["Interpreter command; the suite path is appended as the last argument."],
    ["解释器命令；套件路径作为最后一个参数追加。"]⟩,
  ⟨"cli.arg_jobs",
    ["Number of suites to run at the same time."],
    ["同时运行的套件数量。"]⟩,
  ⟨"cli.arg_reporter",
    ["Reporter to use: spec, html or json."],
    ["使用的报告器：spec、html 或 json。"]⟩,
  ⟨"cli.arg_report_dir",
    ["Directory the report is written to."],
    ["报告输出目录。"]⟩,
  ⟨"cli.arg_non_interactive",
    ["Write the default configuration without launching the interactive wizard."],
    ["不启动交互式向导，直接写入默认配置。"]⟩,
  ⟨"run.using_reporter",
    ["Reporter: ", .value "name"],
    ["报告器：", .value "name"]⟩,
  ⟨"run.discovering",
    ["Discovering suites in ", .value "path"],
    ["正在 ", .value "path", " 中发现套件"]⟩,
  ⟨"run.no_suites",
    ["No suite files ending in '", .value "suffix", "' were found."],
    ["未找到以 '", .value "suffix", "' 结尾的套件文件。"]⟩,
  ⟨"run.suites_found",
    ["Found ", .value "count", " suite(s)."],
    ["发现 ", .value "count", " 个套件。"]⟩,
  ⟨"run.running_suite",
    ["Running suite ", .value "name", "..."],
    ["正在运行套件 ", .value "name", "..."]⟩,
  ⟨"run.suite_passed",
    ["Suite ", .value "name", " passed in ", .value "duration", "s."],
    ["套件 ", .value "name", " 通过，耗时 ", .value "duration", " 秒。"]⟩,
  ⟨"run.suite_failed",
    ["Suite ", .value "name", " failed with ", .value "failures", " failure(s) in ",
      .value "duration", "s."],
    ["套件 ", .value "name", " 失败，共 ", .value "failures", " 个失败，耗时 ",
      .value "duration", " 秒。"]⟩,
  ⟨"run.all_passed",
    ["ALL SUITES PASSED"],
    ["所有套件均已通过"]⟩,
  ⟨"run.failures_detected",
    ["FAILURES DETECTED: ", .value "count", " failing test(s)"],
    ["检测到失败：", .value "count", " 个测试失败"]⟩,
  ⟨"report.status_passed",
    ["Passed"],
    ["通过"]⟩,
  ⟨"report.status_failed",
    ["Failed"],
    ["失败"]⟩,
  ⟨"report.status_skipped",
    ["Skipped"],
    ["跳过"]⟩,
  ⟨"report.written",
    ["Report written to ", .value "path"],
    ["报告已写入 ", .value "path"]⟩,
  ⟨"report.write_failed",
    ["Failed to write report:"],
    ["写入报告失败："]⟩,
  ⟨"summary.banner",
    ["--- Suite Summary ---"],
    ["--- 套件摘要 ---"]⟩,
  ⟨"summary.totals",
    [.value "suites", " suite(s), ", .value "passed", " passed, ", .value "failed", " failed, ",
      .value "skipped", " skipped in ", .value "duration", "s"],
    [.value "suites", " 个套件，", .value "passed", " 个通过，", .value "failed", " 个失败，",
      .value "skipped", " 个跳过，耗时 ", .value "duration", " 秒"]⟩,
  ⟨"summary.failure_banner",
    ["--- FAILING SUITES ---"],
    ["--- 失败的套件 ---"]⟩,
  ⟨"summary.failure_header",
    ["Failure in"],
    ["失败于"]⟩,
  ⟨"summary.exit_code",
    ["Interpreter exit code: ", .value "code"],
    ["解释器退出码：", .value "code"]⟩,
  ⟨"summary.suite_log",
    ["Suite Output"],
    ["套件输出"]⟩,
  ⟨"html_report.title",
    ["Suite Runner Report"],
    ["Suite Runner 报告"]⟩,
  ⟨"html_report.main_header",
    ["Suite Runner Report"],
    ["Suite Runner 报告"]⟩,
  ⟨"html_report.started_at",
    ["Started ", .value "time", ", finished in ", .value "duration", "s"],
    ["开始于 ", .value "time", "，耗时 ", .value "duration", " 秒"]⟩,
  ⟨"html_report.toggle_details",
    ["Details"],
    ["详情"]⟩,
  ⟨"html_report.summary.suites",
    ["Suites"],
    ["套件"]⟩,
  ⟨"html_report.summary.tests",
    ["Tests"],
    ["测试"]⟩,
  ⟨"html_report.summary.passed",
    ["Passed"],
    ["通过"]⟩,
  ⟨"html_report.summary.failed",
    ["Failed"],
    ["失败"]⟩,
  ⟨"html_report.summary.skipped",
    ["Skipped"],
    ["跳过"]⟩,
  ⟨"html_report.table.header.suite",
    ["Suite"],
    ["套件"]⟩,
  ⟨"html_report.table.header.status",
    ["Status"],
    ["状态"]⟩,
  ⟨"html_report.table.header.cases",
    ["Cases"],
    ["用例"]⟩,
  ⟨"html_report.table.header.failures",
    ["Failures"],
    ["失败"]⟩,
  ⟨"html_report.table.header.duration",
    ["Duration"],
    ["耗时"]⟩,
  ⟨"init.welcome",
    ["Welcome to the Suite Runner configuration wizard!"],
    ["欢迎使用 Suite Runner 配置向导！"]⟩,
  ⟨"init.description",
    ["This will create a SuiteRunner.toml file in the current directory."],
    ["这将在当前目录中创建 SuiteRunner.toml 文件。"]⟩,
  ⟨"init.overwrite_prompt",
    [.value "path", " already exists. Overwrite it?"],
    [.value "path", " 已存在，是否覆盖？"]⟩,
  ⟨"init.confirmation_failed",
    ["Failed to read user input."],
    ["读取用户输入失败。"]⟩,
  ⟨"init.aborted",
    ["Initialization aborted."],
    ["初始化已取消。"]⟩,
  ⟨"init.suites_dir_prompt",
    ["Suites directory"],
    ["套件目录"]⟩,
  ⟨"init.suites_dir_missing",
    ["Note: directory '", .value "path", "' does not exist yet."],
    ["提示：目录 '", .value "path", "' 尚不存在。"]⟩,
  ⟨"init.command_prompt",
    ["Interpreter command"],
    ["解释器命令"]⟩,
  ⟨"init.reporter_prompt",
    ["Reporter"],
    ["报告器"]⟩,
  ⟨"init.report_dir_prompt",
    ["Report directory"],
    ["报告目录"]⟩,
  ⟨"init.serialize_failed",
    ["Failed to serialize configuration."],
    ["序列化配置失败。"]⟩,
  ⟨"init.write_failed",
    ["Failed to write ", .value "path"],
    ["写入 ", .value "path", " 失败"]⟩,
  ⟨"init.success_created",
    ["Created ", .value "path"],
    ["已创建 ", .value "path"]⟩,
  ⟨"init.usage_hint",
    ["Run \x60suite-runner run\x60 to execute your suites."],
    ["运行 \x60suite-runner run\x60 来执行你的套件。"]⟩]

end TapSuite

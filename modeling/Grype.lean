import Grype.Go
import Grype.Pkg
import Grype.Match
import Grype.Matcher.Distro
import Grype.Presenter.Models
import Grype.Db.Differ
import Grype.Db.Stores
import Grype.Db.Runs
import Grype.Cli.Setup
import Grype.Cli.DbCheck
